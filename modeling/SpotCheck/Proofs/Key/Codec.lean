import SpotCheck.Proofs.Completeness
import SpotCheck.Proofs.ReferenceString.Prefix
import SpotCheck.Proofs.Text

/-!
# The stored form of keys

A byte string is read as a key against a reference string if and only if it is the stored form of
that key and the weights of the key are the first points of the string. The stored form tells its
own length in its first twelve bytes, so that no stored form starts another one.
-/

namespace SpotCheck

/-! ### Numbers -/

namespace Bytes

theorem ofLittleEndian_four {n : Nat} (h : n < 2 ^ 32) : ofLittleEndian (littleEndian 4 n) = n := by
  rw [ofLittleEndian_littleEndian]
  exact Nat.mod_eq_of_lt h

theorem littleEndian_four_inj {m n : Nat} (hm : m < 2 ^ 32) (hn : n < 2 ^ 32)
    (h : littleEndian 4 m = littleEndian 4 n) : m = n := by
  rw [← ofLittleEndian_four hm, h, ofLittleEndian_four hn]

end Bytes

namespace Key

/-! ### Steps -/

theorem cut_eq_ok_iff {count : Nat} {bytes head rest : Bytes} :
    cut count bytes = .ok (head, rest) ↔ head.length = count ∧ bytes = head ++ rest := by
  unfold cut
  constructor
  · intro h
    dsimp only at h
    split at h
    · rename_i hlen
      cases h
      exact ⟨hlen, (List.take_append_drop count bytes).symm⟩
    · cases h
  · intro h
    obtain ⟨rfl, rfl⟩ := h
    simp

theorem cutNumber_eq_ok_iff {bytes rest : Bytes} {n : Nat} :
    cutNumber bytes = .ok (n, rest) ↔ n < 2 ^ 32 ∧ bytes = Bytes.littleEndian 4 n ++ rest := by
  rw [cutNumber, bind_eq_ok_iff]
  constructor
  · intro h
    obtain ⟨⟨head, tail⟩, hcut, hok⟩ := h
    obtain ⟨hlen, rfl⟩ := cut_eq_ok_iff.1 hcut
    cases hok
    have hlt := Bytes.ofLittleEndian_lt head
    rw [hlen] at hlt
    refine ⟨hlt, ?_⟩
    rw [← hlen, Bytes.littleEndian_ofLittleEndian]
  · intro h
    obtain ⟨hlt, rfl⟩ := h
    refine ⟨_, cut_eq_ok_iff.2 ⟨Bytes.length_littleEndian 4 n, rfl⟩, ?_⟩
    dsimp only
    rw [Bytes.ofLittleEndian_four hlt]

/-! ### Fields -/

namespace Fields

def numbers (f : Fields) : List Nat :=
  [f.logRows, f.numColumns, f.window, f.numConstraints, f.numBoundary, f.numQueries]

def toBytes (f : Fields) : Bytes :=
  magic ++ (Bytes.littleEndian 4 f.circuitId.utf8ByteSize ++ (Bytes.ofText f.circuitId ++
    (f.numbers.flatMap (Bytes.littleEndian 4) ++ f.stringDigest)))

/-- Every number has room in its four bytes. -/
structure Fits (f : Fields) : Prop where
  circuitId : f.circuitId.utf8ByteSize < 2 ^ 32
  numbers : ∀ n ∈ f.numbers, n < 2 ^ 32
  stringDigest : f.stringDigest.length = Digest.width

theorem Fits.length_toBytes {f : Fields} (h : f.Fits) :
    f.toBytes.length = 68 + f.circuitId.utf8ByteSize := by
  have hmagic : magic.length = 8 := rfl
  have hnumbers : (f.numbers.flatMap (Bytes.littleEndian 4)).length = 24 := by
    rw [length_flatMap_of_forall fun n _ => Bytes.length_littleEndian 4 n]
    rfl
  have hdigest : f.stringDigest.length = 32 := h.stringDigest
  simp only [toBytes, List.length_append, Bytes.length_littleEndian, Bytes.length_ofText]
  omega

end Fields

theorem fields_eq_ok_iff {bytes : Bytes} {f : Fields} :
    fields bytes = .ok f ↔ f.Fits ∧ bytes = f.toBytes := by
  simp only [fields, bind_eq_ok_iff, Prod.exists, ite_error_bind_eq_ok_iff, cut_eq_ok_iff,
    cutNumber_eq_ok_iff, Nat.sub_self, Nat.add_zero, not_not]
  constructor
  · intro h
    obtain ⟨_, _, ⟨-, rfl⟩, rfl, idLength, _, ⟨hlength, rfl⟩, id, tail, ⟨hid, rfl⟩, h⟩ := h
    -- The name decides whether there are further steps.
    cases htext : Bytes.toText? id with
    | none =>
      rw [htext] at h
      cases h
    | some text =>
      simp only [htext, bind_eq_ok_iff, Prod.exists, ite_error_bind_eq_ok_iff, cut_eq_ok_iff,
        cutNumber_eq_ok_iff, not_not, Except.ok.injEq, List.length_eq_zero_iff] at h
      obtain ⟨_, rfl, logRows, _, ⟨h₁, rfl⟩, numColumns, _, ⟨h₂, rfl⟩, window, _, ⟨h₃, rfl⟩,
        numConstraints, _, ⟨h₄, rfl⟩, numBoundary, _, ⟨h₅, rfl⟩, numQueries, _, ⟨h₆, rfl⟩,
        stringDigest, _, ⟨hdigest, rfl⟩, rfl, rfl⟩ := h
      obtain rfl := Bytes.toText?_eq_some_iff.1 htext
      rw [Bytes.length_ofText] at hid
      subst hid
      refine ⟨⟨hlength, ?_, hdigest⟩, ?_⟩
      · simp only [Fields.numbers, List.forall_mem_cons]
        exact ⟨h₁, h₂, h₃, h₄, h₅, h₆, by simp⟩
      · simp [Fields.toBytes, Fields.numbers]
  · intro h
    obtain ⟨hfits, rfl⟩ := h
    have htext : Bytes.toText? (Bytes.ofText f.circuitId) = some f.circuitId :=
      Bytes.toText?_eq_some_iff.2 rfl
    have hnumbers := hfits.numbers
    simp only [Fields.numbers, List.forall_mem_cons] at hnumbers
    obtain ⟨h₁, h₂, h₃, h₄, h₅, h₆, -⟩ := hnumbers
    refine ⟨magic, _, ⟨rfl, rfl⟩, rfl, _, _, ⟨hfits.circuitId, rfl⟩, Bytes.ofText f.circuitId, _,
      ⟨rfl, rfl⟩, ?_⟩
    simp only [htext, bind_eq_ok_iff, Prod.exists, ite_error_bind_eq_ok_iff, cut_eq_ok_iff,
      cutNumber_eq_ok_iff, not_not, Fields.numbers, List.flatMap_cons, List.flatMap_nil,
      List.append_assoc, List.nil_append]
    exact ⟨_, rfl, _, _, ⟨h₁, rfl⟩, _, _, ⟨h₂, rfl⟩, _, _, ⟨h₃, rfl⟩, _, _, ⟨h₄, rfl⟩, _, _,
      ⟨h₅, rfl⟩, _, _, ⟨h₆, rfl⟩, _, [], ⟨hfits.stringDigest, (List.append_nil _).symm⟩, rfl, rfl⟩

/-- The length of the name stands in front, and nothing else varies in length. -/
theorem Fields.Fits.eq_nil_of_append {f g : Fields} (hf : f.Fits) (hg : g.Fits) {rest : Bytes}
    (h : f.toBytes ++ rest = g.toBytes) : rest = [] := by
  have hfront := h
  simp only [Fields.toBytes, List.append_assoc] at hfront
  have hid := List.append_inj_left (List.append_cancel_left hfront) (by simp)
  have hwidth := Bytes.littleEndian_four_inj hf.circuitId hg.circuitId hid
  have hlen := congrArg List.length h
  rw [List.length_append, hf.length_toBytes, hg.length_toBytes, hwidth] at hlen
  exact List.length_eq_zero_iff.1 (by omega)

/-! ### Keys -/

def toFields (key : Key) : Fields where
  circuitId := key.circuitId
  logRows := key.logRows
  numColumns := key.numColumns
  window := key.window
  numConstraints := key.numConstraints
  numBoundary := key.numBoundary
  numQueries := key.numQueries
  stringDigest := key.stringDigest.bytes

theorem toBytes_toFields (key : Key) : key.toFields.toBytes = key.toBytes := by
  simp only [Fields.toBytes, toBytes, List.append_assoc]
  rfl

/-- The numbers of a key that are not bounded by its rows have room in four bytes. -/
structure Storable (key : Key) : Prop where
  circuitId : key.circuitId.utf8ByteSize < 2 ^ 32
  numColumns : key.numColumns < 2 ^ 32
  numConstraints : key.numConstraints < 2 ^ 32
  numBoundary : key.numBoundary < 2 ^ 32
  numQueries : key.numQueries < 2 ^ 32

theorem fits_toFields_iff {key : Key} : key.toFields.Fits ↔ key.Storable := by
  have hlog : key.logRows ≤ 24 := key.logRows_le
  have hwindow : key.window ≤ key.numRows := key.window_le
  have hrows := key.numRows_le
  constructor
  · intro h
    have hnumbers := h.numbers
    simp only [Fields.numbers, toFields, List.forall_mem_cons] at hnumbers
    obtain ⟨-, h₂, -, h₄, h₅, h₆, -⟩ := hnumbers
    exact ⟨h.circuitId, h₂, h₄, h₅, h₆⟩
  · intro h
    refine ⟨h.circuitId, ?_, key.stringDigest.length_bytes⟩
    simp only [Fields.numbers, toFields, List.forall_mem_cons]
    exact ⟨by omega, h.numColumns, by omega, h.numConstraints, h.numBoundary, h.numQueries,
      by simp⟩

/-- The weights of the key are the first points of the string, whose digest the key holds. -/
structure IsBoundTo (key : Key) (string : ReferenceString) : Prop where
  one_le_numQueries : 1 ≤ key.numQueries
  queriesFit : key.QueriesFit
  rowWeights : string.take? key.transitionRows = .ok key.rowWeights
  stringDigest : ReferenceString.pointsDigest key.rowWeights = key.stringDigest

theorem ofFields_eq_ok_iff {f : Fields} {string : ReferenceString} {key : Key} :
    ofFields f string = .ok key ↔ key.toFields = f ∧ key.IsBoundTo string := by
  unfold ofFields
  constructor
  · intro h
    split at h
    · dsimp only at h
      split at h
      · cases h
      · rename_i hcount
        simp only [bind_eq_ok_iff, ite_error_bind_eq_ok_iff, mapError_eq_ok_iff, not_not] at h
        obtain ⟨digest, hdigest, hsame, weights, hweights, hok⟩ := h
        cases hok
        obtain ⟨points, hpoints, rfl⟩ := ReferenceString.prefixDigest_eq_ok_iff.1 hdigest
        obtain rfl := Except.ok.inj (hpoints.symm.trans hweights)
        have hqueries : 1 ≤ f.numQueries :=
          Nat.one_le_iff_ne_zero.2 fun hzero => hcount (.inl hzero)
        have hfit : f.numQueries ≤ (1 <<< f.logRows) - (f.window - 1) :=
          Nat.not_lt.1 fun hlt => hcount (.inr hlt)
        exact ⟨by simp [toFields, hsame], hqueries, hfit, hweights, rfl⟩
    · cases h
  · intro h
    obtain ⟨rfl, hbound⟩ := h
    have hshape : 1 ≤ key.toFields.logRows ∧ key.toFields.logRows ≤ maxLogRows ∧
        1 ≤ key.toFields.window ∧ key.toFields.window ≤ 1 <<< key.toFields.logRows :=
      ⟨key.one_le_logRows, key.logRows_le, key.one_le_window, key.window_le⟩
    have hcount : ¬ (key.toFields.numQueries = 0 ∨ key.toFields.numQueries >
        (1 <<< key.toFields.logRows) - (key.toFields.window - 1)) := by
      have hpos : 1 ≤ key.toFields.numQueries := hbound.one_le_numQueries
      have hfit : key.toFields.numQueries ≤ _ := hbound.queriesFit
      exact not_or_intro (Nat.one_le_iff_ne_zero.1 hpos) (Nat.not_lt.2 hfit)
    have hdigest := ReferenceString.prefixDigest_eq_ok_iff.2
      ⟨_, hbound.rowWeights, hbound.stringDigest⟩
    rw [dif_pos hshape]
    dsimp only
    rw [if_neg hcount]
    simp only [bind_eq_ok_iff, ite_error_bind_eq_ok_iff, mapError_eq_ok_iff, not_not]
    exact ⟨_, hdigest, rfl, _, hbound.rowWeights, rfl⟩

/-- What is read is a key of the string, and what was read is its stored form. -/
theorem ofBytes_eq_ok_iff {bytes : Bytes} {string : ReferenceString} {key : Key} :
    ofBytes bytes string = .ok key ↔
      key.Storable ∧ key.IsBoundTo string ∧ bytes = key.toBytes := by
  rw [ofBytes, bind_eq_ok_iff]
  simp only [mapError_eq_ok_iff, fields_eq_ok_iff, ofFields_eq_ok_iff]
  constructor
  · intro h
    obtain ⟨f, ⟨hfits, rfl⟩, rfl, hbound⟩ := h
    exact ⟨fits_toFields_iff.1 hfits, hbound, key.toBytes_toFields⟩
  · intro h
    obtain ⟨hstorable, hbound, rfl⟩ := h
    exact ⟨key.toFields, ⟨fits_toFields_iff.2 hstorable, key.toBytes_toFields.symm⟩, rfl, hbound⟩

theorem Storable.eq_nil_of_append {key other : Key} (hkey : key.Storable)
    (hother : other.Storable) {rest : Bytes} (h : key.toBytes ++ rest = other.toBytes) :
    rest = [] := by
  rw [← toBytes_toFields, ← toBytes_toFields] at h
  exact (fits_toFields_iff.2 hkey).eq_nil_of_append (fits_toFields_iff.2 hother) h

/-! ### Words -/

/-- The reader with a word for every number of rows, taken when the checks in front of it are
passed. -/
def readWords (bytes : Bytes) (string : ReferenceString) : Outcome KeyError Key := do
  let f ← Outcome.relabel .format (Outcome.ofResult (fields bytes))
  if f.logRows = 0 ∨ maxLogRows < f.logRows ∨ f.window = 0 then Outcome.refuse (.format .shape)
  let rows ← Outcome.ofFaulting (Word.powTwo f.logRows)
  if rows < f.window then Outcome.refuse (.format .shape)
  let lastOffset ← Outcome.ofFaulting (Word.sub f.window 1)
  let _ ← Outcome.ofFaulting (Word.sub rows lastOffset)
  Outcome.ofResult (ofFields f string)

theorem powTwo_logRows {logRows : Nat} (h : logRows ≤ maxLogRows) :
    Word.powTwo logRows = .ok (1 <<< logRows) := by
  unfold maxLogRows at h
  rw [Word.powTwo, if_pos (by omega)]

theorem ofFields_of_shape {f : Fields} {string : ReferenceString}
    (h : ¬ (1 ≤ f.logRows ∧ f.logRows ≤ maxLogRows ∧ 1 ≤ f.window ∧ f.window ≤ 1 <<< f.logRows)) :
    ofFields f string = .error (.format .shape) := by
  rw [ofFields, dif_neg h]

theorem readWords_eq (bytes : Bytes) (string : ReferenceString) :
    readWords bytes string = Outcome.ofResult (ofBytes bytes string) := by
  unfold readWords ofBytes
  cases fields bytes with
  | error e => rfl
  | ok f =>
    simp only [Outcome.ofResult_ok, Outcome.relabel_ok, bind, Except.bind, Except.mapError]
    by_cases hfront : f.logRows = 0 ∨ maxLogRows < f.logRows ∨ f.window = 0
    · rw [if_pos hfront, ofFields_of_shape (by omega)]
      rfl
    · have hlog : f.logRows ≤ maxLogRows := by omega
      rw [if_neg hfront, powTwo_logRows hlog]
      dsimp only [Outcome.ofFaulting]
      by_cases hwindow : 1 <<< f.logRows < f.window
      · rw [if_pos hwindow, ofFields_of_shape (by omega)]
        rfl
      · have hlast : Word.sub f.window 1 = .ok (f.window - 1) :=
          Word.sub_eq_ok_iff.2 ⟨rfl, by omega⟩
        have hrows : Word.sub (1 <<< f.logRows) (f.window - 1) =
            .ok (1 <<< f.logRows - (f.window - 1)) := Word.sub_eq_ok_iff.2 ⟨rfl, by omega⟩
        simp [hwindow, hlast, hrows]

/-- The numbers that follow from a key are words, none falls below zero, and nothing is divided by
zero. -/
structure WordsFit (key : Key) : Prop where
  numRows : Word.powTwo key.logRows = .ok key.numRows
  lastRow : Word.sub key.numRows 1 = .ok (key.numRows - 1)
  lastOffset : Word.sub key.window 1 = .ok (key.window - 1)
  transitionRows : Word.sub key.numRows (key.window - 1) = .ok key.transitionRows
  transitionRows_pos : 0 < key.transitionRows
  /-- The cells of the window at a row are numbered by columns, and stand in the trace. -/
  cell : ∀ row < key.transitionRows, ∀ number < key.window * key.numColumns,
    0 < key.numColumns ∧
      Word.add row (number / key.numColumns) = .ok (row + number / key.numColumns) ∧
      row + number / key.numColumns < key.numRows

theorem wordsFit (key : Key) : key.WordsFit where
  numRows := powTwo_logRows key.logRows_le
  lastRow := by
    have hone := key.one_le_window
    have hle : key.window ≤ key.numRows := key.window_le
    exact Word.sub_eq_ok_iff.2 ⟨rfl, by omega⟩
  lastOffset := Word.sub_eq_ok_iff.2 ⟨rfl, key.one_le_window⟩
  transitionRows := by
    have hle : key.window ≤ key.numRows := key.window_le
    exact Word.sub_eq_ok_iff.2 ⟨rfl, by omega⟩
  transitionRows_pos := key.transitionRows_pos
  cell := by
    intro row hrow number hnumber
    have hoffset : number / key.numColumns < key.window := Nat.div_lt_of_lt_mul (by
      rwa [Nat.mul_comm] at hnumber)
    have hfits := key.lt_transitionRows_iff.1 hrow
    have hrows := key.numRows_lt_limit
    exact ⟨Nat.pos_of_mul_pos_left (Nat.zero_lt_of_lt hnumber),
      Word.add_eq_ok_iff.2 ⟨rfl, by omega⟩, by omega⟩

/-! ### Keys from a setup -/

variable {c : Circuit} {logRows : Nat} {inputs : PublicInputs} {config : ProverConfig}
  {string other : ReferenceString} {key : Key}

/-- The weights of a key determine the digest that it holds. -/
theorem IsOf.pointsDigest_rowWeights (h : key.IsOf c logRows inputs config string) :
    ReferenceString.pointsDigest key.rowWeights = key.stringDigest := by
  obtain ⟨points, hpoints, hdigest⟩ := ReferenceString.prefixDigest_eq_ok_iff.1 h.stringDigest
  obtain rfl := Except.ok.inj (hpoints.symm.trans h.rowWeights)
  exact hdigest

/-- A key is bound to every string that starts with the points from which it was set up. -/
theorem IsOf.isBoundTo (h : key.IsOf c logRows inputs config string)
    (hrows : c.enforcedRows key.numRows = key.transitionRows)
    (hsame : other.points.take key.transitionRows = string.points.take key.transitionRows) :
    key.IsBoundTo other where
  one_le_numQueries := by
    have hpos := key.transitionRows_pos
    have hqueries := h.queries_ne
    rw [h.numQueries, hrows]
    omega
  queriesFit := h.queriesFit (Nat.le_of_eq hrows)
  rowWeights := by
    have hweights := h.rowWeights
    rw [hrows] at hweights
    exact ReferenceString.take?_of_take_eq hweights hsame
  stringDigest := h.pointsDigest_rowWeights

/-! ### Main theorem -/

/-- A key that was set up is read back from its stored form, against every string that starts with
the same points. What is read as a key is its stored form and nothing else: no byte may be missing
at the end, and none may be added. -/
theorem ofBytes_inverts_toBytes :
    (∀ {c logRows inputs config string other} {key : Key},
      (∀ rows, c.enforcedRows rows = rows - (c.window - 1)) →
      setup c logRows inputs config string = .ok key →
      key.circuitId.utf8ByteSize < 2 ^ 32 → key.numColumns < 2 ^ 32 →
      key.numConstraints < 2 ^ 32 → key.numBoundary < 2 ^ 32 →
      other.points.take key.transitionRows = string.points.take key.transitionRows →
      ofBytes key.toBytes other = .ok key) ∧
    (∀ {bytes string} {key : Key}, ofBytes bytes string = .ok key → key.toBytes = bytes) ∧
    (∀ {bytes string} {key : Key}, ofBytes bytes string = .ok key →
      ∀ changed, changed ≠ bytes → (changed <+: bytes ∨ bytes <+: changed) →
        ∀ other, ∃ e, ofBytes changed other = .error e) := by
  refine ⟨?_, ?_, ?_⟩
  · intro c logRows inputs config string other key hdefault hsetup hid hcolumns hconstraints
      hboundary hsame
    have hkey := isOf_of_setup hsetup
    have hbound := hkey.isBoundTo (hkey.enforcedRows_eq hdefault) hsame
    have hqueries : key.numQueries < 2 ^ 32 := by
      have hfit : key.numQueries ≤ key.numRows - (key.window - 1) := hbound.queriesFit
      have hle := key.numRows_le
      omega
    exact ofBytes_eq_ok_iff.2 ⟨⟨hid, hcolumns, hconstraints, hboundary, hqueries⟩, hbound, rfl⟩
  · intro bytes string key h
    exact (ofBytes_eq_ok_iff.1 h).2.2.symm
  · intro bytes string key h changed hne hside other
    cases hread : ofBytes changed other with
    | error e => exact ⟨e, rfl⟩
    | ok key' =>
      obtain ⟨hstorable, -, rfl⟩ := ofBytes_eq_ok_iff.1 h
      obtain ⟨hstorable', -, rfl⟩ := ofBytes_eq_ok_iff.1 hread
      rcases hside with ⟨rest, hrest⟩ | ⟨rest, hrest⟩
      · rw [hstorable'.eq_nil_of_append hstorable hrest, List.append_nil] at hrest
        exact absurd hrest hne
      · rw [hstorable.eq_nil_of_append hstorable' hrest, List.append_nil] at hrest
        exact absurd hrest.symm hne

/-- A key for two rows, read against a string of three points, and its form with a byte too few
and one too many. -/
theorem ofBytes_inverts_toBytes_constant :
    setup Constant.circuit 1 .empty ⟨1⟩ Constant.string = .ok Constant.key ∧
      ofBytes Constant.key.toBytes ⟨[.one, ⟨3⟩, ⟨9⟩]⟩ = .ok Constant.key ∧
      (∃ e, ofBytes Constant.key.toBytes.dropLast Constant.string = .error e) ∧
      ∃ e, ofBytes (Constant.key.toBytes ++ [0]) Constant.string = .error e := by
  have hread : ofBytes Constant.key.toBytes ⟨[.one, ⟨3⟩, ⟨9⟩]⟩ = .ok Constant.key :=
    ofBytes_inverts_toBytes.1 (fun _ => rfl) Constant.setup_eq_key (by decide) (by decide)
      (by decide) (by decide) rfl
  have hlong : 0 < Constant.key.toBytes.length := by
    rw [toBytes, List.length_append, Digest.length_bytes_eq]
    omega
  refine ⟨Constant.setup_eq_key, hread,
    ofBytes_inverts_toBytes.2.2 hread _ (fun h => ?_) (.inl (List.dropLast_prefix _)) _,
    ofBytes_inverts_toBytes.2.2 hread _ (fun h => ?_) (.inr (List.prefix_append ..)) _⟩
  · have hlen := congrArg List.length h
    rw [List.length_dropLast] at hlen
    omega
  · have hlen := congrArg List.length h
    rw [List.length_append] at hlen
    simp at hlen

end Key

end SpotCheck
