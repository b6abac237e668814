import SpotCheck.Proofs.Fibonacci.Session
import SpotCheck.Proofs.Key.Codec
import SpotCheck.Proofs.Verdict

/-!
# Verification without a session

Five questions, asked in one order, decide whether a stored key, a proof and public inputs get a
verdict: whether the key can be read, whether it is for the circuit, whether there are as many
public values and asserted cells as the circuit has, and whether the proof is as long as the key
says. What is in the proof decides the verdict only. For the key and the inputs of a session the
answer is the one that the session gives.
-/

namespace SpotCheck.Fibonacci

variable {host : Host} {string other : ReferenceString} {keyBytes proof : Bytes}
  {inputs : PublicInputs} {key : Key}

theorem verifyDetached_eq (h : host.Serves string) :
    (verifyDetached host keyBytes proof inputs).1 =
      match Key.ofBytes keyBytes string with
      | .error cause => Outcome.refuse (.key cause)
      | .ok key => Outcome.relabel .verification (verify key circuit proof inputs) := by
  unfold Host.Serves at h
  rw [verifyDetached]
  rcases hrequest : host.request 0 with ⟨answer, host'⟩
  rw [hrequest] at h
  dsimp only at h
  subst h
  dsimp only
  cases Key.ofBytes keyBytes string with
  | error cause => rfl
  | ok key => rfl

/-! ### What is wrong first -/

structure IsFor (key : Key) : Prop where
  circuitId : key.circuitId = circuitId
  numColumns : key.numColumns = 2
  window : key.window = 3
  numConstraints : key.numConstraints = 3

theorem matches_iff_isFor : key.matches circuit = true ↔ IsFor key := by
  rw [Key.matches_iff]
  constructor
  · intro h
    obtain ⟨hid, hcolumns, hwindow, hconstraints⟩ := h
    exact ⟨hid.symm, hcolumns.symm, hwindow.symm, hconstraints.symm⟩
  · intro h
    exact ⟨h.circuitId.symm, h.numColumns.symm, h.window.symm, h.numConstraints.symm⟩

instance (key : Key) : Decidable (IsFor key) := decidable_of_iff _ matches_iff_isFor

/-- Two values at the start and one at the end are public. -/
def HasShape (inputs : PublicInputs) : Prop :=
  inputs.initial.length = 2 ∧ inputs.final.length = 1

instance (inputs : PublicInputs) : Decidable (HasShape inputs) :=
  inferInstanceAs (Decidable (_ ∧ _))

def wrongShape (inputs : PublicInputs) : ProvingError :=
  .circuit .witness ("expected 2 initial and 1 final value, got " ++
    toString inputs.initial.length ++ " and " ++ toString inputs.final.length)

/-- What keeps a key from a verdict on a proof of some length, in the order in which it is found. -/
def firstMismatch (key : Key) (inputs : PublicInputs) (length : Nat) :
    Option VerificationError :=
  if ¬ IsFor key then some (.keyMismatch (.circuit key.circuitId circuitId))
  else if ¬ HasShape inputs then some (.publicInputs (wrongShape inputs))
  else if key.numBoundary ≠ 3 then some (.keyMismatch (.assertionCount 3 key.numBoundary))
  else if length ≠ key.layout.bytes then
    some (.format (.sizeMismatch key.layout.bytes length))
  else none

def firstDefect (string : ReferenceString) (keyBytes : Bytes) (inputs : PublicInputs)
    (length : Nat) : Option SessionError :=
  match Key.ofBytes keyBytes string with
  | .error cause => some (.key cause)
  | .ok key => (firstMismatch key inputs length).map .verification

theorem firstMismatch_eq_none_iff {length : Nat} :
    firstMismatch key inputs length = none ↔
      IsFor key ∧ HasShape inputs ∧ key.numBoundary = 3 ∧ length = key.layout.bytes := by
  unfold firstMismatch
  split_ifs <;> simp_all

theorem firstMismatch_ne_truncated {length offset : Nat} :
    firstMismatch key inputs length ≠ some (.format (.truncated offset)) := by
  unfold firstMismatch
  split_ifs <;> simp

theorem assertions_of_shape (h : HasShape inputs) {rows : Nat} (hrows : 0 < rows) :
    ∃ claims, circuit.assertions inputs rows = .ok claims ∧ claims.length = 3 ∧
      ∀ a ∈ claims, a.column = 0 := by
  obtain ⟨initial, final⟩ := inputs
  obtain ⟨first, second, rfl⟩ := List.length_eq_two.1 h.1
  obtain ⟨output, rfl⟩ := List.length_eq_one_iff.1 h.2
  exact ⟨_, assertions_eq first second output hrows, rfl, by simp⟩

theorem assertions_of_not_shape (h : ¬ HasShape inputs) (rows : Nat) :
    circuit.assertions inputs rows = Outcome.refuse (wrongShape inputs) := by
  show assertions inputs rows = _
  unfold assertions
  split
  · rename_i hinitial hfinal
    exact absurd ⟨by rw [hinitial]; rfl, by rw [hfinal]; rfl⟩ h
  · rfl

theorem proofSize_of_shape (hkey : IsFor key) (hboundary : key.numBoundary = 3)
    (hqueries : key.QueriesFit) : key.layout.proofSize = .ok key.layout.bytes :=
  ProofLayout.proofSize_eq_ok_iff.2
    ⟨rfl, fits_of_shape hkey.numColumns hkey.window hboundary hqueries⟩

theorem check_of_mismatch (hqueries : key.QueriesFit) {e : VerificationError}
    (h : firstMismatch key inputs proof.length = some e) :
    check key circuit proof inputs = Outcome.refuse e := by
  rw [check]
  -- The cases are split in the order of the questions: each one is asked behind those before it.
  by_cases hkey : IsFor key
  · rw [if_pos (matches_iff_isFor.2 hkey)]
    by_cases hshape : HasShape inputs
    · obtain ⟨claims, hclaims, hcount, -⟩ := assertions_of_shape hshape key.numRows_pos
      rw [hclaims]
      dsimp only [Outcome.relabel_ok, bind, Except.bind]
      rw [hcount]
      by_cases hboundary : key.numBoundary = 3
      · have hlength : proof.length ≠ key.layout.bytes := fun hlength => by
          rw [firstMismatch_eq_none_iff.2 ⟨hkey, hshape, hboundary, hlength⟩] at h
          cases h
        have hread := Proof.ofBytes_of_length_ne (proofSize_of_shape hkey hboundary hqueries)
          hlength
        have he : .format (.sizeMismatch key.layout.bytes proof.length) = e := by
          simpa [firstMismatch, hkey, hshape, hboundary, hlength] using h
        rw [if_neg (by omega), hread, ← he]
        rfl
      · have he : .keyMismatch (.assertionCount 3 key.numBoundary) = e := by
          simpa [firstMismatch, hkey, hshape, hboundary] using h
        rw [if_pos (by omega), ← he]
    · have he : .publicInputs (wrongShape inputs) = e := by
        simpa [firstMismatch, hkey, hshape] using h
      rw [assertions_of_not_shape hshape, ← he]
      rfl
  · have he : .keyMismatch (.circuit key.circuitId circuitId) = e := by
      simpa [firstMismatch, hkey] using h
    rw [if_neg fun hmatches => hkey (matches_iff_isFor.1 hmatches), ← he]
    rfl

/-! ### Verdicts -/

theorem evaluate_frameIn_isOk (hkey : IsFor key) (hcanonical : key.layout.IsCanonical proof)
    {query : Nat} (hquery : query < key.numQueries) :
    ∃ evals, circuit.evaluate (key.frameIn proof query) = .ok evals := by
  -- A difference borrows one modulus, which suffices when what is taken away is canonical.
  have hvalue : ∀ offset < 3, (key.layout.queryIn proof query offset 0).value.IsCanonical := by
    intro offset hoffset
    refine hcanonical.queryIn hquery ?_ ?_
    · rwa [← hkey.window] at hoffset
    · show 0 < key.numColumns
      rw [hkey.numColumns]
      decide
  have hplaces : windowPlaces key.window key.numColumns =
      [(0, 0), (0, 1), (1, 0), (1, 1), (2, 0), (2, 1)] := by
    rw [hkey.window, hkey.numColumns]
    rfl
  rw [Key.frameIn, hplaces, hkey.numColumns]
  exact evaluate_isOk (hvalue 0 (by decide)) (hvalue 1 (by decide))

/-- The search for the rows to query ends, whenever it is begun. -/
def SearchesEnd (string : ReferenceString) (keyBytes proof : Bytes) (inputs : PublicInputs) :
    Prop :=
  ∀ key, Key.ofBytes keyBytes string = .ok key → firstMismatch key inputs proof.length = none →
    key.layout.IsCanonical proof →
      Challenges.SearchEnds key inputs ((List.range key.numColumns).map (ProofLayout.rootIn proof))

theorem check_isOk_of_match (hqueries : key.QueriesFit)
    (hmatch : firstMismatch key inputs proof.length = none)
    (hsearch : key.layout.IsCanonical proof → Challenges.SearchEnds key inputs
      ((List.range key.numColumns).map (ProofLayout.rootIn proof))) :
    ∃ verdict, check key circuit proof inputs = .ok verdict := by
  obtain ⟨hkey, hshape, hboundary, hlength⟩ := firstMismatch_eq_none_iff.1 hmatch
  obtain ⟨claims, hclaims, hcount, hcolumn⟩ := assertions_of_shape hshape key.numRows_pos
  have hsize := proofSize_of_shape hkey hboundary hqueries
  rw [← hlength] at hsize
  refine check_isOk hqueries (matches_iff_isFor.2 hkey) hclaims (hcount.trans hboundary.symm) ?_
    hsize (fun hcanonical => ?_) fun hcanonical query hquery =>
      evaluate_frameIn_isOk hkey hcanonical hquery
  · intro a ha
    rw [hcolumn a ha, hkey.numColumns]
    decide
  · refine Challenges.draw_isOk_iff.2 ⟨?_, hsearch hcanonical⟩
    rw [hkey.numConstraints]
    decide

theorem verifyDetached_of_defect (hserves : host.Serves string) {e : SessionError}
    (h : firstDefect string keyBytes inputs proof.length = some e) :
    (verifyDetached host keyBytes proof inputs).1 = Outcome.refuse e := by
  rw [verifyDetached_eq hserves]
  unfold firstDefect at h
  cases hkey : Key.ofBytes keyBytes string with
  | error cause =>
    rw [hkey] at h
    cases h
    rfl
  | ok key =>
    rw [hkey] at h
    obtain ⟨mismatch, hmismatch, rfl⟩ := Option.map_eq_some_iff.1 h
    dsimp only
    rw [verify, check_of_mismatch (Key.queriesFit_of_ofBytes hkey) hmismatch]
    rfl

theorem verifyDetached_isOk (hserves : host.Serves string)
    (hsearch : SearchesEnd string keyBytes proof inputs)
    (h : firstDefect string keyBytes inputs proof.length = none) :
    ∃ accepted, (verifyDetached host keyBytes proof inputs).1 = .ok accepted := by
  rw [verifyDetached_eq hserves]
  unfold firstDefect at h
  cases hkey : Key.ofBytes keyBytes string with
  | error cause =>
    rw [hkey] at h
    cases h
  | ok key =>
    rw [hkey] at h
    have hmatch := Option.map_eq_none_iff.1 h
    obtain ⟨verdict, hverdict⟩ := check_isOk_of_match (Key.queriesFit_of_ofBytes hkey) hmatch
      (hsearch key hkey hmatch)
    dsimp only
    rw [verify, hverdict]
    exact ⟨_, rfl⟩

theorem firstDefect_eq_none_iff :
    firstDefect string keyBytes inputs proof.length = none ↔
      ∃ key, Key.ofBytes keyBytes string = .ok key ∧ IsFor key ∧ HasShape inputs ∧
        key.numBoundary = 3 ∧ key.layout.proofSize = .ok proof.length := by
  unfold firstDefect
  cases hkey : Key.ofBytes keyBytes string with
  | error cause => simp
  | ok key =>
    have hqueries := Key.queriesFit_of_ofBytes hkey
    simp only [Option.map_eq_none_iff, firstMismatch_eq_none_iff, Except.ok.injEq,
      exists_eq_left']
    refine and_congr_right fun hfor => and_congr_right fun _ => and_congr_right fun hboundary => ?_
    rw [proofSize_of_shape hfor hboundary hqueries, Except.ok.injEq, eq_comm]

theorem firstDefect_ne_truncated {length offset : Nat} :
    firstDefect string keyBytes inputs length ≠
      some (.verification (.format (.truncated offset))) := by
  unfold firstDefect
  cases Key.ofBytes keyBytes string with
  | error cause => simp
  | ok key => simpa using firstMismatch_ne_truncated

/-! ### Main theorems -/

/-- Whatever bytes are given for a key and for a proof, and whatever values as public inputs: the
first thing that is wrong with their shape is refused, and when nothing is wrong there is a
verdict. No bytes make the verifier fault or run out of them. -/
theorem verifyDetached_of_hostile_bytes {host : Host} {string : ReferenceString}
    {keyBytes proof : Bytes} {inputs : PublicInputs} (hserves : host.Serves string)
    (hsearch : SearchesEnd string keyBytes proof inputs) :
    (∀ e, firstDefect string keyBytes inputs proof.length = some e →
      (verifyDetached host keyBytes proof inputs).1 = Outcome.refuse e) ∧
    ((∃ accepted, (verifyDetached host keyBytes proof inputs).1 = .ok accepted) ↔
      ∃ key, Key.ofBytes keyBytes string = .ok key ∧ IsFor key ∧ HasShape inputs ∧
        key.numBoundary = 3 ∧ key.layout.proofSize = .ok proof.length) ∧
    (∀ fault, (verifyDetached host keyBytes proof inputs).1 ≠ .error (.fault fault)) ∧
    (∀ offset, (verifyDetached host keyBytes proof inputs).1 ≠
      Outcome.refuse (.verification (.format (.truncated offset)))) ∧
    Key.readWords keyBytes string = Outcome.ofResult (Key.ofBytes keyBytes string) ∧
    ∀ key, Key.ofBytes keyBytes string = .ok key → key.WordsFit := by
  rw [← firstDefect_eq_none_iff]
  cases hfirst : firstDefect string keyBytes inputs proof.length with
  | none =>
    obtain ⟨accepted, haccepted⟩ := verifyDetached_isOk hserves hsearch hfirst
    rw [haccepted]
    refine ⟨by simp, by simp, by simp, by simp [Outcome.refuse], Key.readWords_eq _ _,
      fun key _ => key.wordsFit⟩
  | some e =>
    have hne : ∀ offset, e ≠ .verification (.format (.truncated offset)) := fun offset he =>
      firstDefect_ne_truncated (hfirst.trans (congrArg some he))
    rw [verifyDetached_of_defect hserves hfirst]
    refine ⟨by simp, by simp [Outcome.refuse], by simp [Outcome.refuse],
      by simpa [Outcome.refuse] using hne, Key.readWords_eq _ _, fun key _ => key.wordsFit⟩

theorem searchesEnd_of_one_query (hkey : Key.ofBytes keyBytes string = .ok key)
    (hqueries : key.numQueries = 1) : SearchesEnd string keyBytes proof inputs := by
  intro other hother hmatch _
  obtain rfl := Except.ok.inj (hkey.symm.trans hother)
  refine Challenges.searchEnds_of_one_query _ _ hqueries ?_
  rw [(firstMismatch_eq_none_iff.1 hmatch).1.numConstraints]
  decide

def memoryHost (string : ReferenceString) : Host := ⟨.empty, .memory string, .empty⟩

theorem serves_memoryHost (string : ReferenceString) : (memoryHost string).Serves string := rfl

def fourRowsKey : Key where
  circuitId := circuitId
  logRows := 2
  numColumns := 2
  window := 3
  numConstraints := 3
  numBoundary := 3
  numQueries := 1
  stringDigest := ReferenceString.pointsDigest [⟨1⟩, ⟨2⟩]
  rowWeights := [⟨1⟩, ⟨2⟩]
  one_le_logRows := Nat.le_succ 1
  logRows_le := by decide
  one_le_window := by decide
  window_le := by decide

theorem ofBytes_fourRowsKey : Key.ofBytes fourRowsKey.toBytes fourPoints = .ok fourRowsKey := by
  decide +kernel

/-- Bytes of the right length get a verdict, whatever they are; none at all are too few. -/
theorem verifyDetached_of_hostile_bytes_four_rows :
    (∃ accepted, (verifyDetached (memoryHost fourPoints) fourRowsKey.toBytes
      (List.replicate 676 0xff) ⟨[⟨1⟩, ⟨1⟩], [⟨3⟩]⟩).1 = .ok accepted) ∧
    (verifyDetached (memoryHost fourPoints) fourRowsKey.toBytes [] ⟨[⟨1⟩, ⟨1⟩], [⟨3⟩]⟩).1 =
      Outcome.refuse (.verification (.format (.sizeMismatch 676 0))) ∧
    (verifyDetached (memoryHost fourPoints) [] [] .empty).1 =
      Outcome.refuse (.key (.format .truncated)) := by
  have hserves := serves_memoryHost fourPoints
  have hsearch : ∀ proof, SearchesEnd fourPoints fourRowsKey.toBytes proof
      ⟨[⟨1⟩, ⟨1⟩], [⟨3⟩]⟩ := fun _ => searchesEnd_of_one_query ofBytes_fourRowsKey rfl
  have hunread : SearchesEnd fourPoints [] [] .empty := fun key hkey => by cases hkey
  obtain ⟨-, hverdict, -⟩ := verifyDetached_of_hostile_bytes hserves
    (hsearch (List.replicate 676 0xff))
  obtain ⟨hshort, -⟩ := verifyDetached_of_hostile_bytes hserves (hsearch [])
  obtain ⟨hempty, -⟩ := verifyDetached_of_hostile_bytes hserves hunread
  refine ⟨hverdict.2 ⟨fourRowsKey, ofBytes_fourRowsKey, ⟨rfl, rfl, rfl, rfl⟩, ⟨rfl, rfl⟩, rfl, ?_⟩,
    hshort _ ?_, hempty _ rfl⟩
  · rw [List.length_replicate]
    rfl
  · rw [firstDefect, ofBytes_fourRowsKey]
    decide

/-! ### Sessions -/

def Session.afterProofs (s : Session) : Nat → Session
  | 0 => s
  | count + 1 => (s.afterProofs count).createProof.2

theorem Session.createProof_keeps (s : Session) :
    s.createProof.2.witness = s.witness ∧ s.createProof.2.context.key = s.context.key := by
  obtain ⟨count, hcount⟩ := s.exists_withCount_createProof
  rw [hcount]
  exact ⟨rfl, rfl⟩

theorem Session.afterProofs_keeps (s : Session) (count : Nat) :
    (s.afterProofs count).witness = s.witness ∧
      (s.afterProofs count).context.key = s.context.key := by
  induction count with
  | zero => exact ⟨rfl, rfl⟩
  | succ count ih =>
    obtain ⟨hwitness, hkey⟩ := (s.afterProofs count).createProof_keeps
    exact ⟨hwitness.trans ih.1, hkey.trans ih.2⟩

theorem Session.verifyProof_afterProofs (s : Session) (count : Nat) (bytes : Bytes) :
    (s.afterProofs count).verifyProof bytes = s.verifyProof bytes := by
  obtain ⟨hwitness, hkey⟩ := s.afterProofs_keeps count
  rw [verifyProof, verifyProof, ProvingContext.verifyProof, ProvingContext.verifyProof, hwitness,
    hkey]

variable {config : Config} {prover : ProverConfig}

theorem createProof_of_prove {p : Proof}
    (hprove : prove key circuit config.trace config.inputs = .ok p) :
    (sessionOf config string key).createProof.1 = .ok p.toBytes := by
  simp [Session.createProof, sessionOf, ProvingContext.createProof, hprove]

theorem verifyProof_eq_true_iff :
    (sessionOf config string key).verifyProof proof = .ok true ↔
      check key circuit proof config.inputs = .ok .accepted := by
  rw [Session.verifyProof, Outcome.relabel_eq_ok_iff, ProvingContext.verifyProof,
    verify_eq_ok_iff]
  constructor
  · intro h
    obtain ⟨verdict, hcheck, haccepted⟩ := h
    cases verdict with
    | accepted => exact hcheck
    | rejected ground => cases haccepted
  · intro hcheck
    exact ⟨.accepted, hcheck, rfl⟩

/-- The key is read back against every string that starts with the points of its weights. -/
theorem ofBytes_toBytes_of_setup (hvalid : config.IsValid)
    (hsetup : Key.setup circuit config.logRows config.inputs prover string = .ok key)
    (hsame : other.points.take (2 ^ config.logRows - 2) =
      string.points.take (2 ^ config.logRows - 2)) :
    Key.ofBytes key.toBytes other = .ok key := by
  have hkey := Key.isOf_of_setup hsetup
  have hrows : circuit.enforcedRows key.numRows = key.transitionRows := by
    rw [numRows_of_setup hsetup, transitionRows_of_setup hsetup]
    rfl
  have hbound : key.IsBoundTo other := by
    refine hkey.isBoundTo hrows ?_
    rw [transitionRows_of_setup hsetup]
    exact hsame
  have hstorable : key.Storable := by
    have hfit : key.numQueries ≤ key.transitionRows := hbound.queriesFit
    have hle := hvalid.le
    rw [transitionRows_of_setup hsetup] at hfit
    constructor
    · rw [hkey.circuitId]
      decide
    · rw [hkey.numColumns]
      decide
    · rw [hkey.numConstraints]
      decide
    · rw [numBoundary_of_setup hvalid hsetup]
      decide
    · omega
  exact Key.ofBytes_eq_ok_iff.2 ⟨hstorable, hbound, rfl⟩

/-- For the stored key and the public inputs of a session, any bytes get the answer of the session,
at any time of its life and against any string that starts with the points of the weights. -/
theorem verifyDetached_eq_verifyProof {config : Config} {prover : ProverConfig}
    {host detached : Host} {string other : ReferenceString} {session : Session}
    (hserves : host.Serves string)
    (hbuild : (Session.build config prover host).1 = .ok session)
    (hdetached : detached.Serves other)
    (hsame : other.points.take (2 ^ config.logRows - 2) =
      string.points.take (2 ^ config.logRows - 2)) (count : Nat) (bytes : Bytes) :
    (verifyDetached detached (session.afterProofs count).context.key.toBytes bytes
        (session.afterProofs count).witness.inputs).1 =
      (session.afterProofs count).verifyProof bytes := by
  obtain ⟨hvalid, -, key, hsetup, rfl⟩ := (build_eq_ok_iff hserves).1 hbuild
  obtain ⟨hwitness, hkey⟩ := (sessionOf config string key).afterProofs_keeps count
  calc (verifyDetached detached ((sessionOf config string key).afterProofs count).context.key.toBytes
        bytes ((sessionOf config string key).afterProofs count).witness.inputs).1
      = (verifyDetached detached key.toBytes bytes config.inputs).1 := by
        rw [hkey, hwitness]
        rfl
    _ = Outcome.relabel .verification (verify key circuit bytes config.inputs) := by
        rw [verifyDetached_eq hdetached, ofBytes_toBytes_of_setup hvalid hsetup hsame]
    _ = (sessionOf config string key).verifyProof bytes := rfl
    _ = ((sessionOf config string key).afterProofs count).verifyProof bytes :=
        (Session.verifyProof_afterProofs ..).symm

theorem setup_fourRowsKey :
    Key.setup circuit 2 (Config.inputs ⟨2, 1, 1, none⟩) ⟨1⟩ fourPoints = .ok fourRowsKey := by
  decide +kernel

theorem build_four_rows {host : Host} (hserves : host.Serves fourPoints) :
    (Session.build ⟨2, 1, 1, none⟩ ⟨1⟩ host).1 =
      .ok (sessionOf ⟨2, 1, 1, none⟩ fourPoints fourRowsKey) :=
  (build_eq_ok_iff hserves).2 ⟨by decide, by decide, fourRowsKey, setup_fourRowsKey, rfl⟩

theorem exists_accepted_four_rows :
    ∃ p, prove fourRowsKey circuit (Config.trace ⟨2, 1, 1, none⟩) (Config.inputs ⟨2, 1, 1, none⟩) =
        .ok p ∧
      check fourRowsKey circuit p.toBytes (Config.inputs ⟨2, 1, 1, none⟩) = .ok .accepted := by
  have hvalid : Config.IsValid ⟨2, 1, 1, none⟩ := by decide
  have hdraw := samplingEnds_of_one_query ⟨2, 1, 1, none⟩ fourPoints _ _
    (Config.ofConfig_of_valid hvalid) setup_fourRowsKey
  exact exists_accepted hvalid setup_fourRowsKey (last_eq_output_iff.2 (by simp)) hdraw

/-- A session of four rows makes a proof, which is accepted with two points and without the
session. -/
theorem verifyDetached_eq_verifyProof_four_rows :
    ∃ session bytes,
      (Session.build ⟨2, 1, 1, none⟩ ⟨1⟩ (memoryHost fourPoints)).1 = .ok session ∧
      session.createProof.1 = .ok bytes ∧
      (verifyDetached (memoryHost ⟨[⟨1⟩, ⟨2⟩]⟩) (session.afterProofs 1).context.key.toBytes bytes
        (session.afterProofs 1).witness.inputs).1 = .ok true := by
  have hserves := serves_memoryHost fourPoints
  have hbuild := build_four_rows hserves
  obtain ⟨p, hprove, hcheck⟩ := exists_accepted_four_rows
  have hagree := verifyDetached_eq_verifyProof hserves hbuild (serves_memoryHost ⟨[⟨1⟩, ⟨2⟩]⟩) rfl 1
    p.toBytes
  rw [Session.verifyProof_afterProofs, verifyProof_eq_true_iff.2 hcheck] at hagree
  exact ⟨_, p.toBytes, hbuild, createProof_of_prove hprove, hagree⟩

end SpotCheck.Fibonacci
