import SpotCheck.Fibonacci.Session
import SpotCheck.Proofs.Fibonacci.Constraints
import SpotCheck.Proofs.ReferenceString.Provider
import SpotCheck.Proofs.Session.Runs

/-!
# Runs of the Fibonacci circuit

A run over a provider that holds its string is decided by four questions: whether the number of
rows is supported, whether the string is long enough, whether there are queries at all, and whether
the claimed output is the last value of the sequence. The ledger counts one session more, opened
and closed, for every run that gets past the build.
-/

namespace SpotCheck

/-- The provider holds a string in memory and hands out nothing else. -/
structure Provider.Serves (p : Provider) (string : ReferenceString) : Prop where
  source : p.source = .memory string
  cache : p.cache = none ∨ p.cache = some string

namespace Fibonacci

/-! ### What a configuration stands for -/

namespace Config

/-- A number of rows that is supported. -/
def IsValid (c : Config) : Prop := minLogRows ≤ c.logRows ∧ c.logRows ≤ maxLogRows

instance (c : Config) : Decidable c.IsValid := inferInstanceAs (Decidable (_ ∧ _))

/-- The last Fibonacci number, reduced, of the sequence with the two values of the configuration,
reduced. -/
def lastValue (c : Config) : Nat :=
  fibonacci (c.first.toNat % modulus) (c.second.toNat % modulus) (2 ^ c.logRows - 1) % modulus

def last (c : Config) : Felt :=
  term (Felt.ofWord c.first) (Felt.ofWord c.second) (2 ^ c.logRows - 1)

/-- The value that the public inputs claim for it. -/
def output (c : Config) : Felt :=
  match c.claimedOutput with
  | some claimed => Felt.ofWord claimed
  | none => c.last

def trace (c : Config) : Trace :=
  traceOf (Felt.ofWord c.first) (Felt.ofWord c.second) (2 ^ c.logRows)

def inputs (c : Config) : PublicInputs :=
  ⟨[Felt.ofWord c.first, Felt.ofWord c.second], [c.output]⟩

def claims (c : Config) : List Assertion :=
  [⟨0, 0, Felt.ofWord c.first⟩, ⟨0, 1, Felt.ofWord c.second⟩, ⟨0, 2 ^ c.logRows - 1, c.output⟩]

variable {c : Config}

theorem toNat_last (c : Config) : c.last.toNat = c.lastValue := by
  rw [last, toNat_term (Felt.isCanonical_ofWord _) (Felt.isCanonical_ofWord _),
    Felt.toNat_ofWord, Felt.toNat_ofWord, lastValue]

theorem last_eq (c : Config) : c.last = ⟨UInt32.ofNat c.lastValue⟩ := by
  have hlt : c.lastValue < modulus := Nat.mod_lt _ (by decide)
  apply Felt.toNat_injective
  rw [toNat_last, Felt.toNat, UInt32.toNat_ofNat']
  refine (Nat.mod_eq_of_lt ?_).symm
  rw [modulus_eq] at hlt
  omega

theorem IsValid.four_le (h : c.IsValid) : 4 ≤ 2 ^ c.logRows :=
  Nat.pow_le_pow_right (show 0 < 2 by decide) h.1

theorem IsValid.two_le (h : c.IsValid) : 2 ≤ 2 ^ c.logRows :=
  Nat.le_trans (by decide) h.four_le

theorem IsValid.le (h : c.IsValid) : 2 ^ c.logRows ≤ 2 ^ 20 :=
  Nat.pow_le_pow_right (by decide) h.2

theorem ofConfig_of_valid (h : c.IsValid) :
    Witness.ofConfig c = .ok ⟨c, c.trace, c.inputs⟩ := by
  have hvalid : c.validate = .ok () := if_pos h
  have hback : (sequence (Felt.ofWord c.first) (Felt.ofWord c.second) (2 ^ c.logRows)).back? =
      some c.last := back?_sequence h.two_le
  rw [Witness.ofConfig, hvalid]
  simp only [bind, Except.bind, Nat.one_shiftLeft, hback, inputs, output]
  cases c.claimedOutput <;> rfl

theorem ofConfig_of_invalid (h : ¬ c.IsValid) : Witness.ofConfig c = .error ⟨c.logRows⟩ := by
  have hvalid : c.validate = .error ⟨c.logRows⟩ := if_neg h
  rw [Witness.ofConfig, hvalid]
  rfl

theorem numRows_trace (h : c.IsValid) : c.trace.numRows = 2 ^ c.logRows :=
  numRows_traceOf h.two_le

theorem isCanonical_trace (h : c.IsValid) : c.trace.IsCanonical := by
  have hmem : ∀ value ∈ sequence (Felt.ofWord c.first) (Felt.ofWord c.second) (2 ^ c.logRows),
      value.IsCanonical := by
    intro value hvalue
    rw [← Array.mem_toList_iff, toList_sequence h.two_le] at hvalue
    obtain ⟨i, -, rfl⟩ := List.mem_map.1 hvalue
    exact isCanonical_term (Felt.isCanonical_ofWord _) (Felt.isCanonical_ofWord _) i
  intro column hcolumn
  rcases List.mem_cons.1 hcolumn with rfl | hcolumn
  · exact hmem
  · obtain rfl := List.mem_singleton.1 hcolumn
    intro value hvalue
    obtain ⟨a, -, rfl⟩ := Array.mem_map.1 hvalue
    exact Felt.isCanonical_square a

theorem isCandidate_trace (h : c.IsValid) : IsCandidate c.trace where
  table := isTable_traceOf
  numColumns := rfl
  four_le := by
    rw [numRows_trace h]
    exact h.four_le
  numRows_lt := by
    rw [numRows_trace h]
    exact Nat.lt_of_le_of_lt h.le (by decide)
  canonical := isCanonical_trace h

theorem checkBoundary_claims (h : c.IsValid) :
    checkBoundary c.trace c.claims =
      if c.last = c.output then .ok ()
      else .error (.boundary (2 ^ c.logRows - 1) 0 c.last c.output) := by
  have hrows := h.two_le
  have hfirst : c.trace.cell? 0 0 = some (Felt.ofWord c.first) := cell?_zero hrows (by omega)
  have hsecond : c.trace.cell? 0 1 = some (Felt.ofWord c.second) := cell?_zero hrows (by omega)
  have hlast : c.trace.cell? 0 (2 ^ c.logRows - 1) = some c.last := cell?_zero hrows (by omega)
  have hcheckFirst : Assertion.check ⟨0, 0, Felt.ofWord c.first⟩ c.trace = .ok () := by
    simp [Assertion.check, hfirst]
  have hcheckSecond : Assertion.check ⟨0, 1, Felt.ofWord c.second⟩ c.trace = .ok () := by
    simp [Assertion.check, hsecond]
  have hcheckLast : Assertion.check ⟨0, 2 ^ c.logRows - 1, c.output⟩ c.trace =
      if c.last = c.output then .ok ()
      else .error (.boundary (2 ^ c.logRows - 1) 0 c.last c.output) := by
    simp [Assertion.check, hlast]
  show (Assertion.check ⟨0, 0, Felt.ofWord c.first⟩ c.trace >>= fun _ =>
    Assertion.check ⟨0, 1, Felt.ofWord c.second⟩ c.trace >>= fun _ =>
      Assertion.check ⟨0, 2 ^ c.logRows - 1, c.output⟩ c.trace >>= fun _ => .ok ()) = _
  rw [hcheckFirst, hcheckSecond, hcheckLast]
  split <;> rfl

end Config

/-! ### Keys -/

variable {config : Config} {prover : ProverConfig} {string : ReferenceString} {key : Key}

theorem assertions_inputs (h : config.IsValid) :
    circuit.assertions config.inputs (2 ^ config.logRows) = .ok config.claims := by
  have hle := h.two_le
  exact assertions_eq _ _ _ (by omega)

theorem parameters_of_valid (h : config.IsValid) :
    (1 ≤ config.logRows ∧ config.logRows ≤ SpotCheck.maxLogRows) ∧
      (1 ≤ circuit.window ∧ circuit.window ≤ 2 ^ config.logRows) := by
  have hmin : 2 ≤ config.logRows := h.1
  have hmax : config.logRows ≤ 20 := h.2
  have hfour := h.four_le
  refine ⟨⟨by omega, ?_⟩, by decide, ?_⟩
  · unfold SpotCheck.maxLogRows
    omega
  · show 3 ≤ 2 ^ config.logRows
    omega

theorem setup_of_no_queries (h : config.IsValid) (hqueries : prover.numQueries = 0) :
    Key.setup circuit config.logRows config.inputs prover string =
      Outcome.refuse (.parameters .noQueries) := by
  obtain ⟨hlog, hwindow⟩ := parameters_of_valid h
  rw [← Nat.one_shiftLeft] at hwindow
  rw [Key.setup, dif_pos hlog, dif_pos ⟨by decide, hwindow⟩, if_pos hqueries]

theorem setup_isOk (h : config.IsValid) (hstring : 2 ^ config.logRows ≤ string.size)
    (hqueries : prover.numQueries ≠ 0) :
    ∃ key, Key.setup circuit config.logRows config.inputs prover string = .ok key := by
  obtain ⟨hlog, hwindow⟩ := parameters_of_valid h
  have hrows : circuit.enforcedRows (2 ^ config.logRows) ≤ string.size := by
    show 2 ^ config.logRows - 2 ≤ string.size
    omega
  exact Key.setup_isOk hlog (by decide) hwindow hqueries ⟨_, assertions_inputs h⟩ hrows

/-- With three rows in a window and no more queries than rows, a proof has less than `2 ^ 37`
bytes. -/
theorem fits_of_shape (hcolumns : key.numColumns = 2) (hwindow : key.window = 3)
    (hboundary : key.numBoundary = 3) (hqueries : key.QueriesFit) : key.layout.Fits := by
  have hdepth : key.logRows ≤ 24 := key.logRows_le
  have hcount : key.numQueries ≤ 2 ^ 24 := by
    have hfit : key.numQueries ≤ key.transitionRows := hqueries
    have hle : key.transitionRows ≤ key.numRows := Nat.sub_le ..
    have hrows := key.numRows_le
    omega
  have hlayout : key.layout = ⟨2, key.logRows, 3, key.numQueries, 3⟩ := by
    rw [Key.layout, hcolumns, hboundary, hwindow]
  have hopened : (3 + key.numQueries * (2 * 3)) * (4 + key.logRows * 32) ≤
      (3 + 2 ^ 24 * (2 * 3)) * (4 + 24 * 32) := Nat.mul_le_mul (by omega) (by omega)
  rw [hlayout]
  constructor <;> dsimp only [ProofLayout.bytes] <;> unfold Word.limit <;> omega

section Setup

variable (h : config.IsValid)
  (hsetup : Key.setup circuit config.logRows config.inputs prover string = .ok key)

include hsetup

theorem numRows_of_setup : key.numRows = 2 ^ config.logRows := by
  rw [Key.numRows_eq, (Key.isOf_of_setup hsetup).logRows_eq]

theorem transitionRows_of_setup : key.transitionRows = 2 ^ config.logRows - 2 := by
  rw [Key.transitionRows, numRows_of_setup hsetup, (Key.isOf_of_setup hsetup).window]
  rfl

theorem queriesFit_of_setup : key.QueriesFit := by
  refine (Key.isOf_of_setup hsetup).queriesFit ?_
  rw [numRows_of_setup hsetup, transitionRows_of_setup hsetup]
  exact Nat.le_refl _

include h

theorem numBoundary_of_setup : key.numBoundary = 3 := by
  obtain ⟨assertions, hassertions, hcount⟩ := (Key.isOf_of_setup hsetup).assertions
  rw [numRows_of_setup hsetup, assertions_inputs h] at hassertions
  cases hassertions
  exact hcount.symm

theorem fits_of_setup : key.layout.Fits :=
  fits_of_shape (Key.isOf_of_setup hsetup).numColumns (Key.isOf_of_setup hsetup).window
    (numBoundary_of_setup h hsetup) (queriesFit_of_setup hsetup)

/-- The trace of a configuration is a witness for its key when the claimed output is the last
value. -/
theorem isWitness_of_setup (houtput : config.last = config.output) :
    circuit.IsWitness key config.trace config.inputs config.claims where
  table := isTable_traceOf
  numRows := by rw [Config.numRows_trace h, numRows_of_setup hsetup]
  numColumns := (Key.isOf_of_setup hsetup).numColumns.symm
  produced := by rw [numRows_of_setup hsetup, assertions_inputs h]
  count := (numBoundary_of_setup h hsetup).symm
  boundary := by rw [Config.checkBoundary_claims h, if_pos houtput]
  constraints := violations_traceOf h.two_le (Config.isCandidate_trace h)

theorem exists_accepted (houtput : config.last = config.output)
    (hdraw : ∃ ch, Challenges.draw key config.inputs config.trace.roots = .ok ch) :
    ∃ p, prove key circuit config.trace config.inputs = .ok p ∧
      check key circuit p.toBytes config.inputs = .ok .accepted := by
  obtain ⟨ch, hdraw⟩ := hdraw
  have hwitness := isWitness_of_setup h hsetup houtput
  have hrows := (Challenges.suits_of_draw hdraw).below
  have hvanishes : ∀ row ∈ ch.rows, circuit.VanishesAt key config.trace ch.coefficients row := by
    intro row hrow
    have hlt := hrows row hrow
    rw [transitionRows_of_setup hsetup] at hlt
    have henforced : row < circuit.enforcedRows config.trace.numRows := by
      rw [Config.numRows_trace h]
      exact hlt
    exact (Circuit.violations_eq_nil_iff.1 hwitness.constraints row henforced).vanishesAt key _
  obtain ⟨p, hp⟩ := prove_isOk hwitness hdraw hvanishes
  have hcanonical := canonical_of_prove hp (Config.isCanonical_trace h)
  refine ⟨p, hp, ?_⟩
  rw [check_toBytes (Key.isOf_of_setup hsetup).matches (queriesFit_of_setup hsetup)
    (fits_of_setup h hsetup) hp, if_pos hcanonical]

theorem prove_of_output_ne (houtput : config.last ≠ config.output) :
    prove key circuit config.trace config.inputs =
      Outcome.refuse (.boundary (2 ^ config.logRows - 1) 0 config.last config.output) := by
  have hvalid : config.trace.validate = .ok () :=
    isTable_traceOf.validate (Config.numRows_trace h)
  have hshape : key.checkShape config.trace = .ok () := by
    have hrows : config.trace.numRows = key.numRows := by
      rw [Config.numRows_trace h, numRows_of_setup hsetup]
    have hcolumns : config.trace.numColumns = key.numColumns :=
      (Key.isOf_of_setup hsetup).numColumns.symm
    rw [Key.checkShape, if_neg (by simp [hrows, hcolumns])]
  have hproduced : circuit.assertions config.inputs config.trace.numRows = .ok config.claims := by
    rw [Config.numRows_trace h, assertions_inputs h]
  have hcount : key.checkAssertions config.claims = .ok () := by
    rw [Key.checkAssertions, numBoundary_of_setup h hsetup]
    rfl
  have hboundary := Config.checkBoundary_claims h
  rw [if_neg houtput] at hboundary
  simp only [prove, Circuit.checkWitness, hvalid, hshape, hproduced, hcount, hboundary,
    Outcome.ofResult_ok, Outcome.ofResult_error, bind, Except.bind]
  rfl

end Setup

/-! ### Builds -/

variable {host : Host}

/-- The host hands out the string to whoever asks for no number of points. -/
def Host.Serves (host : Host) (string : ReferenceString) : Prop :=
  (host.request 0).1 = .ok string

theorem Host.serves_of_provider (h : host.provider.Serves string) : host.Serves string := by
  rcases h.cache with hcache | hcache
  · simp [Host.Serves, Host.request, Provider.request, hcache, h.source, Provider.load,
      ReferenceString.ensure]
  · simp [Host.Serves, Host.request, Provider.request, hcache, ReferenceString.ensure]

/-- The size that is asked for does not change which string is found. -/
theorem Host.Serves.request_eq (h : host.Serves string) (least : Nat) :
    (host.request least).1 = Outcome.ofResult (string.ensure least) := by
  unfold Host.Serves Host.request Provider.request at h
  unfold Host.request Provider.request
  cases hcache : host.provider.cache with
  | some cached =>
    rw [hcache] at h
    cases h
    rfl
  | none =>
    rw [hcache] at h
    cases hload : Provider.load host.files host.provider.source with
    | error stop =>
      rw [hload] at h
      cases h
    | ok loaded =>
      rw [hload] at h
      cases h
      rfl

theorem Host.serves_of_request {least : Nat} (h : (host.request least).1 = .ok string) :
    host.Serves string := by
  unfold Host.request Provider.request at h
  unfold Host.Serves Host.request Provider.request
  cases hcache : host.provider.cache with
  | some cached =>
    rw [hcache] at h
    obtain rfl := ReferenceString.eq_of_ensure (Outcome.ofResult_eq_ok_iff.1 h)
    rfl
  | none =>
    rw [hcache] at h
    cases hload : Provider.load host.files host.provider.source with
    | error stop =>
      rw [hload] at h
      cases h
    | ok loaded =>
      rw [hload] at h
      obtain rfl := ReferenceString.eq_of_ensure (Outcome.ofResult_eq_ok_iff.1 h)
      rfl

/-- A build has the provider load its string, if anything, and enters the ledger once if it
succeeds. -/
theorem host_build (config : Config) (prover : ProverConfig) (host : Host) :
    ∃ provider, host.provider.Loads host.files provider ∧
      (Session.build config prover host).2 = ⟨host.files, provider,
        match (Session.build config prover host).1 with
        | .ok _ => host.ledger.enter
        | .error _ => host.ledger⟩ := by
  unfold Session.build
  cases Witness.ofConfig config with
  | error cause => exact ⟨host.provider, .kept, rfl⟩
  | ok witness =>
    have hloads := host.provider.loads_request host.files witness.trace.numRows
    dsimp only
    rcases hrequest : host.request witness.trace.numRows with ⟨answer, host'⟩
    have hhost : host' = ⟨host.files, (host.provider.request host.files
        witness.trace.numRows).2, host.ledger⟩ := (congrArg Prod.snd hrequest).symm
    subst hhost
    rcases answer with (_ | _) | string
    · exact ⟨_, hloads, rfl⟩
    · exact ⟨_, hloads, rfl⟩
    · dsimp only
      rcases ProvingContext.setup circuit config.logRows witness.inputs string prover with
        (_ | _) | context
      · exact ⟨_, hloads, rfl⟩
      · exact ⟨_, hloads, rfl⟩
      · exact ⟨_, hloads, rfl⟩

/-- A build looks at its host for the reference string only. -/
theorem build_congr {host' : Host} (config : Config) (prover : ProverConfig)
    (h : ∀ least, (host.request least).1 = (host'.request least).1) :
    (Session.build config prover host).1 = (Session.build config prover host').1 := by
  unfold Session.build
  cases Witness.ofConfig config with
  | error cause => rfl
  | ok witness =>
    have hanswer := h witness.trace.numRows
    dsimp only
    rcases hrequest : host.request witness.trace.numRows with ⟨answer, after⟩
    rcases hrequest' : host'.request witness.trace.numRows with ⟨answer', after'⟩
    rw [hrequest, hrequest'] at hanswer
    obtain rfl : answer = answer' := hanswer
    cases answer with
    | error stop => rfl
    | ok string =>
      dsimp only
      cases ProvingContext.setup circuit config.logRows witness.inputs string prover <;> rfl

theorem build_of_invalid (h : ¬ config.IsValid) :
    Session.build config prover host = (Outcome.refuse (.config ⟨config.logRows⟩), host) := by
  rw [Session.build, Config.ofConfig_of_invalid h]

theorem build_of_valid (h : config.IsValid) (hserves : host.Serves string) :
    (Session.build config prover host).1 =
      if string.size < 2 ^ config.logRows then
        Outcome.refuse (.string (.tooSmall (2 ^ config.logRows) string.size))
      else Outcome.relabel .key ((Key.setup circuit config.logRows config.inputs prover string).map
        fun key => ⟨⟨config, config.trace, config.inputs⟩, ⟨string, key, 0⟩⟩) := by
  have hanswer := hserves.request_eq (2 ^ config.logRows)
  rw [Session.build, Config.ofConfig_of_valid h]
  dsimp only
  rw [Config.numRows_trace h]
  rcases hrequest : host.request (2 ^ config.logRows) with ⟨answer, host'⟩
  rw [hrequest] at hanswer
  dsimp only at hanswer
  subst hanswer
  by_cases hsize : string.size < 2 ^ config.logRows
  · simp [ReferenceString.ensure, hsize, Outcome.refuse]
  · simp only [ReferenceString.ensure, hsize, if_false, Outcome.ofResult_ok, ProvingContext.setup]
    rcases Key.setup circuit config.logRows config.inputs prover string with (_ | _) | key
    · rfl
    · rfl
    · rfl

/-! ### Proofs of a session -/

namespace Session

/-- The session with another number of proofs made. -/
def withCount (s : Session) (count : Nat) : Session :=
  { s with context := { s.context with proofsCreated := count } }

theorem exists_withCount_createProof (s : Session) :
    ∃ count, s.createProof.2 = s.withCount count := by
  unfold createProof ProvingContext.createProof
  cases prove s.context.key circuit s.witness.trace s.witness.inputs with
  | error stop => exact ⟨s.context.proofsCreated, rfl⟩
  | ok proof => exact ⟨s.context.proofsCreated + 1, rfl⟩

theorem createProof_withCount (s : Session) (count : Nat) :
    (s.withCount count).createProof.1 = s.createProof.1 := by
  unfold createProof ProvingContext.createProof withCount
  cases prove s.context.key circuit s.witness.trace s.witness.inputs with
  | error stop => rfl
  | ok proof => rfl

end Session

/-! ### Runs -/

/-- The outcome of a run once there is a session. -/
def Session.outcome (s : Session) : RunOutcome :=
  match s.createProof with
  | (.error stop, _) => .failed (.proving (stop.cause SessionError.message))
  | (.ok proof, s') =>
    match s'.verifyProof proof with
    | .error stop => .failed (.verification (stop.cause SessionError.message))
    | .ok valid => .verified valid

theorem run_of_build_ok {host' : Host} {s : Session}
    (hbuild : Session.build config prover host = (.ok s, host')) :
    (proofSystem config prover).run host =
      (s.outcome, { host' with ledger := host'.ledger.leave }) := by
  have hb : (proofSystem config prover).build host = (.ok s, host') := hbuild
  rcases hproof : s.createProof with ⟨stop | proof, s'⟩
  · have hs : (proofSystem config prover).synthesize s host' = (.error stop, s', host') := by
      simp [proofSystem, hproof]
    rw [ProofSystem.run_of_synthesize_error hb hs, Session.outcome, hproof]
    rfl
  · have hs : (proofSystem config prover).synthesize s host' = (.ok proof, s', host') := by
      simp [proofSystem, hproof]
    cases hanswer : s'.verifyProof proof with
    | error stop =>
      have hv : (proofSystem config prover).verify s' proof host' = (.error stop, s', host') := by
        simp [proofSystem, hanswer]
      simp only [ProofSystem.run_of_verify_error hb hs hv, Session.outcome, hproof, hanswer]
      rfl
    | ok valid =>
      have hv : (proofSystem config prover).verify s' proof host' = (.ok valid, s', host') := by
        simp [proofSystem, hanswer]
      simp only [ProofSystem.run_of_verify_ok hb hs hv, Session.outcome, hproof, hanswer]
      rfl

/-- A run ends as its session does, or with the refusal of its build. -/
theorem outcome_run (config : Config) (prover : ProverConfig) (host : Host) :
    ((proofSystem config prover).run host).1 =
      match (Session.build config prover host).1 with
      | .ok s => s.outcome
      | .error stop => .failed (.setup (stop.cause SessionError.message)) := by
  rcases hbuild : Session.build config prover host with ⟨stop | s, host'⟩
  · have hb : (proofSystem config prover).build host = (.error stop, host') := hbuild
    rw [ProofSystem.run_of_build_error hb]
    rfl
  · rw [run_of_build_ok hbuild]

theorem outcome_run_congr {host' : Host} (config : Config) (prover : ProverConfig)
    (h : ∀ least, (host.request least).1 = (host'.request least).1) :
    ((proofSystem config prover).run host).1 = ((proofSystem config prover).run host').1 := by
  rw [outcome_run, outcome_run, build_congr config prover h]

/-- A run has the provider load its string, if anything, and closes the session that its build has
opened. -/
theorem host_run (config : Config) (prover : ProverConfig) (host : Host) :
    ∃ provider, host.provider.Loads host.files provider ∧
      ((proofSystem config prover).run host).2 = ⟨host.files, provider,
        match (Session.build config prover host).1 with
        | .ok _ => host.ledger.enter.leave
        | .error _ => host.ledger⟩ := by
  obtain ⟨provider, hloads, hhost⟩ := host_build config prover host
  rcases hbuild : Session.build config prover host with ⟨stop | s, host'⟩
  · have hb : (proofSystem config prover).build host = (.error stop, host') := hbuild
    rw [hbuild] at hhost
    rw [ProofSystem.run_of_build_error hb]
    exact ⟨provider, hloads, hhost⟩
  · rw [hbuild] at hhost
    dsimp only at hhost
    rw [run_of_build_ok hbuild, hhost]
    exact ⟨provider, hloads, rfl⟩

/-- The ledger after a run. -/
theorem ledger_run (config : Config) (prover : ProverConfig) (host : Host) :
    ((proofSystem config prover).run host).2.ledger =
      match (Session.build config prover host).1 with
      | .ok _ => host.ledger.enter.leave
      | .error _ => host.ledger := by
  obtain ⟨provider, -, hhost⟩ := host_run config prover host
  exact congrArg Host.ledger hhost

def sessionOf (config : Config) (string : ReferenceString) (key : Key) : Session :=
  ⟨⟨config, config.trace, config.inputs⟩, ⟨string, key, 0⟩⟩

theorem exists_serves_of_build {s : Session}
    (hbuild : (Session.build config prover host).1 = .ok s) : ∃ string, host.Serves string := by
  unfold Session.build at hbuild
  cases hwitness : Witness.ofConfig config with
  | error cause =>
    rw [hwitness] at hbuild
    cases hbuild
  | ok witness =>
    rw [hwitness] at hbuild
    dsimp only at hbuild
    rcases hrequest : host.request witness.trace.numRows with ⟨(_ | _) | string, after⟩
    · rw [hrequest] at hbuild
      cases hbuild
    · rw [hrequest] at hbuild
      cases hbuild
    · exact ⟨string, Host.serves_of_request (congrArg Prod.fst hrequest)⟩

/-- A session that is built holds the witness of its configuration and a key of the string. -/
theorem build_eq_ok_iff {s : Session} (hserves : host.Serves string) :
    (Session.build config prover host).1 = .ok s ↔
      config.IsValid ∧ 2 ^ config.logRows ≤ string.size ∧
        ∃ key, Key.setup circuit config.logRows config.inputs prover string = .ok key ∧
          s = sessionOf config string key := by
  by_cases hvalid : config.IsValid
  · rw [build_of_valid hvalid hserves]
    by_cases hsize : string.size < 2 ^ config.logRows
    · simp [hsize, Outcome.refuse, Nat.not_le.2 hsize]
    · rw [if_neg hsize, Outcome.relabel_eq_ok_iff, map_eq_ok_iff]
      simp only [hvalid, Nat.not_lt.1 hsize, true_and, sessionOf, eq_comm]
  · simp [build_of_invalid hvalid, hvalid, Outcome.refuse]

theorem outcome_of_accepted {p : Proof}
    (hprove : prove key circuit config.trace config.inputs = .ok p)
    (hcheck : check key circuit p.toBytes config.inputs = .ok .accepted) :
    (sessionOf config string key).outcome = .verified true := by
  have hverify : verify key circuit p.toBytes config.inputs = .ok true := by
    rw [verify, hcheck]
    rfl
  simp [Session.outcome, sessionOf, Session.createProof, ProvingContext.createProof, hprove,
    Session.verifyProof, ProvingContext.verifyProof, hverify]

theorem outcome_of_refused {e : ProvingError}
    (hprove : prove key circuit config.trace config.inputs = Outcome.refuse e) :
    (sessionOf config string key).outcome = .failed (.proving e.message) := by
  simp [Session.outcome, sessionOf, Session.createProof, ProvingContext.createProof, hprove,
    Outcome.refuse, Stop.cause, SessionError.message]

/-! ### Main theorem -/

/-- The outcome that a configuration, a number of queries and a string decide. -/
def expectedOutcome (config : Config) (prover : ProverConfig) (string : ReferenceString) :
    RunOutcome :=
  if ¬ config.IsValid then .failed (.setup (ConfigError.message ⟨config.logRows⟩))
  else if string.size < 2 ^ config.logRows then
    .failed (.setup (ReferenceString.Error.tooSmall (2 ^ config.logRows) string.size).message)
  else if prover.numQueries = 0 then .failed (.setup (KeyError.parameters .noQueries).message)
  else match config.claimedOutput with
    | none => .verified true
    | some claimed =>
      if claimed.toNat % modulus = config.lastValue then .verified true
      else .failed (.proving (ProvingError.boundary (2 ^ config.logRows - 1) 0
        ⟨UInt32.ofNat config.lastValue⟩ (Felt.ofWord claimed)).message)

/-- The challenges for the key and the roots of a run can be drawn: no search goes on until the
count of scalars leaves its word. -/
def SamplingEnds (config : Config) (prover : ProverConfig) (string : ReferenceString) : Prop :=
  ∀ witness key, Witness.ofConfig config = .ok witness →
    Key.setup circuit config.logRows witness.inputs prover string = .ok key →
    ∃ ch, Challenges.draw key witness.inputs witness.trace.roots = .ok ch

/-- A claimed output is the last value if it is congruent to it. -/
theorem last_eq_output_iff : config.last = config.output ↔
    ∀ claimed, config.claimedOutput = some claimed → claimed.toNat % modulus = config.lastValue := by
  unfold Config.output
  cases hclaimed : config.claimedOutput with
  | none => simp
  | some claimed =>
    constructor
    · intro h other hother
      cases hother
      rw [← Felt.toNat_ofWord, ← Config.toNat_last]
      exact (congrArg Felt.toNat h).symm
    · intro h
      apply Felt.toNat_injective
      rw [Config.toNat_last, Felt.toNat_ofWord, h claimed rfl]

theorem expectedOutcome_of_key (h : config.IsValid) (hstring : 2 ^ config.logRows ≤ string.size)
    (hqueries : prover.numQueries ≠ 0) :
    expectedOutcome config prover string =
      if config.last = config.output then .verified true
      else .failed (.proving (ProvingError.boundary (2 ^ config.logRows - 1) 0 config.last
        config.output).message) := by
  rw [expectedOutcome, if_neg (not_not_intro h), if_neg (Nat.not_lt.2 hstring), if_neg hqueries]
  cases hclaimed : config.claimedOutput with
  | none =>
    have houtput : config.last = config.output :=
      last_eq_output_iff.2 (by simp [hclaimed])
    rw [if_pos houtput]
  | some claimed =>
    by_cases houtput : config.last = config.output
    · rw [if_pos houtput]
      dsimp only
      rw [if_pos (last_eq_output_iff.1 houtput claimed hclaimed)]
    · have hne : ¬ claimed.toNat % modulus = config.lastValue := by
        intro heq
        refine houtput (last_eq_output_iff.2 fun other hother => ?_)
        rw [hclaimed] at hother
        cases hother
        exact heq
      have hclaim : config.output = Felt.ofWord claimed := by
        rw [Config.output, hclaimed]
      rw [if_neg houtput, hclaim, Config.last_eq]
      dsimp only
      rw [if_neg hne]

theorem outcome_eq_expectedOutcome {config : Config} {prover : ProverConfig}
    {string : ReferenceString} {host : Host} (hserves : host.provider.Serves string)
    (hsampling : SamplingEnds config prover string) :
    ((proofSystem config prover).run host).1 = expectedOutcome config prover string := by
  rw [outcome_run]
  by_cases hvalid : config.IsValid
  · rw [build_of_valid hvalid (Host.serves_of_provider hserves)]
    by_cases hsize : string.size < 2 ^ config.logRows
    · rw [expectedOutcome, if_neg (not_not_intro hvalid), if_pos hsize, if_pos hsize]
      rfl
    · rw [if_neg hsize]
      by_cases hqueries : prover.numQueries = 0
      · rw [setup_of_no_queries hvalid hqueries, expectedOutcome, if_neg (not_not_intro hvalid),
          if_neg hsize, if_pos hqueries]
        rfl
      · have hstring := Nat.not_lt.1 hsize
        obtain ⟨key, hsetup⟩ := setup_isOk hvalid hstring hqueries
        rw [hsetup, expectedOutcome_of_key hvalid hstring hqueries]
        by_cases houtput : config.last = config.output
        · have hdraw := hsampling _ _ (Config.ofConfig_of_valid hvalid) hsetup
          obtain ⟨p, hprove, hcheck⟩ := exists_accepted hvalid hsetup houtput hdraw
          rw [if_pos houtput]
          exact outcome_of_accepted hprove hcheck
        · rw [if_neg houtput]
          exact outcome_of_refused (prove_of_output_ne hvalid hsetup houtput)
  · rw [build_of_invalid hvalid, expectedOutcome, if_pos hvalid]
    rfl

/-- Every run over a provider in memory, from every state of the ledger, ends as expected: with a
failed setup, with a failed proof when the claimed output is not the last value, and otherwise with
a valid proof. Its session is counted once among the opened and once among the closed ones if it
was built, and never if it was not. -/
theorem run_eq_expectedOutcome {config : Config} {prover : ProverConfig}
    {string : ReferenceString} {host : Host} (hserves : host.provider.Serves string)
    (hsampling : SamplingEnds config prover string) :
    ((proofSystem config prover).run host).1 = expectedOutcome config prover string ∧
      (∀ s host', (proofSystem config prover).build host = (.ok s, host') →
        ((proofSystem config prover).run host).2.ledger =
          ⟨host.ledger.opened + 1, host.ledger.closed + 1⟩) ∧
      (∀ stop host', (proofSystem config prover).build host = (.error stop, host') →
        ((proofSystem config prover).run host).2.ledger = host.ledger) ∧
      ((proofSystem config prover).run host).2.ledger.live = host.ledger.live := by
  have hledger := ledger_run config prover host
  refine ⟨outcome_eq_expectedOutcome hserves hsampling, fun s host' hb => ?_,
    fun stop host' hb => ?_, ?_⟩
  · have hbuild : Session.build config prover host = (.ok s, host') := hb
    rw [hledger, hbuild]
    rfl
  · have hbuild : Session.build config prover host = (.error stop, host') := hb
    rw [hledger, hbuild]
  · rw [hledger]
    cases (Session.build config prover host).1 with
    | error stop => rfl
    | ok s => exact Nat.add_sub_add_right ..

/-- With one query asked for, no second index is searched for. -/
theorem samplingEnds_of_one_query (config : Config) (string : ReferenceString) :
    SamplingEnds config ⟨1⟩ string := by
  intro witness key _ hsetup
  have hkey := Key.isOf_of_setup hsetup
  have hwindow : key.window ≤ key.numRows := key.window_le
  rw [hkey.window] at hwindow
  change 3 ≤ key.numRows at hwindow
  have hqueries : key.numQueries = 1 := by
    rw [hkey.numQueries]
    show min 1 (key.numRows - 2) = 1
    omega
  refine Challenges.draw_isOk _ _ hqueries ?_
  rw [hkey.numConstraints]
  decide

def fourPoints : ReferenceString := ⟨[⟨1⟩, ⟨2⟩, ⟨4⟩, ⟨8⟩]⟩

/-- Four rows, four points, one query: the run verifies its proof, and one session was opened and
closed. -/
theorem run_eq_expectedOutcome_four_rows :
    ((proofSystem ⟨2, 1, 1, none⟩ ⟨1⟩).run ⟨.empty, .memory fourPoints, .empty⟩).1 =
        .verified true ∧
      ((proofSystem ⟨2, 1, 1, none⟩ ⟨1⟩).run ⟨.empty, .memory fourPoints, .empty⟩).2.ledger =
        ⟨1, 1⟩ := by
  have hserves : (Provider.memory fourPoints).Serves fourPoints := ⟨rfl, .inl rfl⟩
  have hsampling := samplingEnds_of_one_query ⟨2, 1, 1, none⟩ fourPoints
  let host : Host := ⟨.empty, .memory fourPoints, .empty⟩
  have hserves' : host.provider.Serves fourPoints := hserves
  obtain ⟨houtcome, hopened, -, -⟩ := run_eq_expectedOutcome hserves' hsampling
  have hverified : expectedOutcome ⟨2, 1, 1, none⟩ ⟨1⟩ fourPoints = .verified true := by
    decide +kernel
  rw [hverified] at houtcome
  refine ⟨houtcome, ?_⟩
  rcases hb : (proofSystem ⟨2, 1, 1, none⟩ ⟨1⟩).build host with ⟨stop | s, host'⟩
  · rw [ProofSystem.run_of_build_error hb] at houtcome
    cases houtcome
  · exact hopened s host' hb

/-- The same with a wrong claim: three is the last value, not four. -/
example : expectedOutcome ⟨2, 1, 1, some 4⟩ ⟨1⟩ fourPoints = .failed (.proving
    ("Constraint violation: boundary assertion at row 3 column 0: trace has 3, " ++
      "public input claims 4")) := by
  decide +kernel

end Fibonacci

end SpotCheck
