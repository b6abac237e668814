import SpotCheck.Proof.Decode
import SpotCheck.Proofs.Steps

/-!
# The stored form of proofs

A reader and a written form belong together: the reader succeeds exactly on the byte strings that
start with the form of its value, and stops behind it. Repeating a step keeps this, so that a byte
string is read as a proof of a layout if and only if it is the stored form of a proof of that
shape.
-/

namespace SpotCheck

/-! ### Steps of a cursor -/

namespace Cursor

variable {α β : Type}

/-- The step reads the stored forms of the good values, and nothing else. -/
def Reads (step : Cursor → Except ProofFormatError (α × Cursor)) (good : α → Prop)
    (form : α → Bytes) : Prop :=
  ∀ c a c', step c = .ok (a, c') ↔
    good a ∧ c.rest = form a ++ c'.rest ∧ c'.offset = c.offset + (form a).length

theorem reads_take (count : Nat) : Reads (take count) (·.length = count) id := by
  intro c head c'
  obtain ⟨offset, rest⟩ := c
  obtain ⟨offset', rest'⟩ := c'
  unfold take
  constructor
  · intro h
    dsimp only at h
    split at h
    · rename_i hlen
      cases h
      exact ⟨hlen, (List.take_append_drop count rest).symm, by rw [id, hlen]⟩
    · cases h
  · intro h
    obtain ⟨hlen, hrest, hoffset⟩ := h
    dsimp only [id] at hrest hoffset ⊢
    subst hlen hrest hoffset
    simp

theorem reads_digest : Reads digest (fun _ => True) Digest.bytes := by
  intro c d c'
  obtain ⟨offset, rest⟩ := c
  obtain ⟨offset', rest'⟩ := c'
  unfold digest
  constructor
  · intro h
    dsimp only at h
    split at h
    · cases h
      exact ⟨trivial, (List.take_append_drop 32 rest).symm, by simp [*]⟩
    · cases h
  · intro h
    obtain ⟨-, hrest, hoffset⟩ := h
    dsimp only at hrest hoffset ⊢
    have hhead : rest.take 32 = d.bytes := by
      rw [hrest, List.take_left' d.length_bytes]
    have htail : rest.drop 32 = rest' := by
      rw [hrest, List.drop_left' d.length_bytes]
    simp only [hhead, htail, hoffset, d.length_bytes, dite_true]

/-- What starts with the form of a good value is read as this value. -/
theorem Reads.step {step : Cursor → Except ProofFormatError (α × Cursor)} {good : α → Prop}
    {form : α → Bytes} (h : Reads step good form) {c : Cursor} {a : α} {tail : Bytes}
    (hgood : good a) (hrest : c.rest = form a ++ tail) :
    ∃ c', step c = .ok (a, c') ∧ c'.rest = tail :=
  ⟨⟨c.offset + (form a).length, tail⟩, (h ..).2 ⟨hgood, hrest, rfl⟩, rfl⟩

/-- Two steps read two forms, one behind the other. -/
theorem Reads.seq {step : Cursor → Except ProofFormatError (α × Cursor)}
    {step' : Cursor → Except ProofFormatError (β × Cursor)} {good : α → Prop} {good' : β → Prop}
    {form : α → Bytes} {form' : β → Bytes} (h : Reads step good form)
    (h' : Reads step' good' form') {c c' : Cursor} {a : α} {b : β} :
    (∃ c₁, step c = .ok (a, c₁) ∧ step' c₁ = .ok (b, c')) ↔
      (good a ∧ good' b) ∧ c.rest = form a ++ form' b ++ c'.rest ∧
        c'.offset = c.offset + (form a ++ form' b).length := by
  constructor
  · intro hsteps
    obtain ⟨c₁, hstep, hstep'⟩ := hsteps
    obtain ⟨hgood, hrest, hoffset⟩ := (h ..).1 hstep
    obtain ⟨hgood', hrest', hoffset'⟩ := (h' ..).1 hstep'
    refine ⟨⟨hgood, hgood'⟩, ?_, ?_⟩
    · rw [hrest, hrest', List.append_assoc]
    · rw [hoffset', hoffset, List.length_append, Nat.add_assoc]
  · intro hforms
    obtain ⟨⟨hgood, hgood'⟩, hrest, hoffset⟩ := hforms
    rw [List.append_assoc] at hrest
    rw [List.length_append, ← Nat.add_assoc] at hoffset
    let c₁ : Cursor := ⟨c.offset + (form a).length, form' b ++ c'.rest⟩
    have hstep : step c = .ok (a, c₁) := (h ..).2 ⟨hgood, hrest, rfl⟩
    have hstep' : step' c₁ = .ok (b, c') := (h' ..).2 ⟨hgood', rfl, hoffset⟩
    exact ⟨c₁, hstep, hstep'⟩

theorem reads_many {step : Cursor → Except ProofFormatError (α × Cursor)} {good : α → Prop}
    {form : α → Bytes} (h : Reads step good form) (count : Nat) :
    Reads (many step count) (fun as => as.length = count ∧ ∀ a ∈ as, good a)
      (List.flatMap form) := by
  induction count with
  | zero =>
    intro c as c'
    obtain ⟨offset, rest⟩ := c
    obtain ⟨offset', rest'⟩ := c'
    simp only [many, Except.ok.injEq, Prod.mk.injEq, Cursor.mk.injEq, List.length_eq_zero_iff]
    constructor
    · intro h
      obtain ⟨rfl, rfl, rfl⟩ := h
      simp
    · intro h
      obtain ⟨⟨rfl, -⟩, hrest, hoffset⟩ := h
      simpa [eq_comm] using And.intro hoffset hrest
  | succ count ih =>
    intro c as c'
    rw [many, bind_eq_ok_iff]
    constructor
    · intro hsteps
      obtain ⟨⟨first, c₁⟩, hfirst, hrest⟩ := hsteps
      obtain ⟨⟨rest, c₂⟩, hmany, hok⟩ := bind_eq_ok_iff.1 hrest
      cases hok
      obtain ⟨⟨hgood, hlen, hall⟩, hforms⟩ := (h.seq ih).1 ⟨c₁, hfirst, hmany⟩
      exact ⟨⟨by rw [List.length_cons, hlen], List.forall_mem_cons.2 ⟨hgood, hall⟩⟩, hforms⟩
    · intro hforms
      obtain ⟨⟨hlen, hall⟩, hforms⟩ := hforms
      cases as with
      | nil => cases hlen
      | cons first rest =>
        obtain ⟨hgood, hall⟩ := List.forall_mem_cons.1 hall
        obtain ⟨c₁, hfirst, hmany⟩ :=
          (h.seq ih).2 ⟨⟨hgood, Nat.succ.inj hlen, hall⟩, hforms⟩
        exact ⟨(first, c₁), hfirst, bind_eq_ok_iff.2 ⟨(rest, c'), hmany, rfl⟩⟩

theorem reads_opening (depth : Nat) :
    Reads (opening depth) (·.siblings.length = depth) Opening.toBytes := by
  intro c o c'
  have hsiblings := reads_many reads_digest depth
  rw [opening, bind_eq_ok_iff]
  constructor
  · intro hsteps
    obtain ⟨⟨raw, c₁⟩, hraw, hrest⟩ := hsteps
    obtain ⟨⟨siblings, c₂⟩, hmany, hok⟩ := bind_eq_ok_iff.1 hrest
    cases hok
    obtain ⟨⟨hwidth, hlen, -⟩, hforms⟩ := ((reads_take 4).seq hsiblings).1 ⟨c₁, hraw, hmany⟩
    have hform : Opening.toBytes ⟨Felt.ofRawBytes raw, siblings⟩ =
        raw ++ siblings.flatMap Digest.bytes := by
      rw [Opening.toBytes, Felt.toBytes_ofRawBytes hwidth]
    rw [hform]
    exact ⟨hlen, hforms⟩
  · intro hforms
    obtain ⟨hlen, hforms⟩ := hforms
    obtain ⟨c₁, hraw, hmany⟩ := ((reads_take 4).seq hsiblings).2
      ⟨⟨o.value.length_toBytes, hlen, fun _ _ => trivial⟩, hforms⟩
    refine ⟨(o.value.toBytes, c₁), hraw, bind_eq_ok_iff.2 ⟨(o.siblings, c'), hmany, ?_⟩⟩
    rw [Felt.ofRawBytes_toBytes]

/-! ### Enough bytes -/

/-- The step takes so many bytes, and stops only when there are fewer. -/
def Takes (step : Cursor → Except ProofFormatError (α × Cursor)) (width : Nat) : Prop :=
  ∀ c : Cursor, width ≤ c.rest.length →
    ∃ a c', step c = .ok (a, c') ∧ c'.rest.length + width = c.rest.length

theorem takes_take (count : Nat) : Takes (take count) count := by
  intro c h
  have hlen : (c.rest.take count).length = count := by
    rw [List.length_take, Nat.min_eq_left h]
  refine ⟨c.rest.take count, ⟨c.offset + count, c.rest.drop count⟩, ?_, ?_⟩
  · simp only [take, hlen, if_true]
  · rw [List.length_drop, Nat.sub_add_cancel h]

theorem takes_digest : Takes digest 32 := by
  intro c h
  have hlen : (c.rest.take 32).length = 32 := by
    rw [List.length_take, Nat.min_eq_left h]
  refine ⟨⟨c.rest.take 32, hlen⟩, ⟨c.offset + 32, c.rest.drop 32⟩, ?_, ?_⟩
  · simp only [digest, hlen, dite_true]
  · rw [List.length_drop, Nat.sub_add_cancel h]

theorem takes_many {step : Cursor → Except ProofFormatError (α × Cursor)} {width : Nat}
    (h : Takes step width) (count : Nat) : Takes (many step count) (count * width) := by
  induction count with
  | zero =>
    intro c _
    exact ⟨[], c, rfl, by omega⟩
  | succ count ih =>
    intro c hroom
    rw [Nat.succ_mul] at hroom
    obtain ⟨first, c₁, hfirst, hlen₁⟩ := h c (by omega)
    obtain ⟨rest, c₂, hrest, hlen₂⟩ := ih c₁ (by omega)
    refine ⟨first :: rest, c₂, ?_, by rw [Nat.succ_mul]; omega⟩
    exact bind_eq_ok_iff.2 ⟨_, hfirst, bind_eq_ok_iff.2 ⟨_, hrest, rfl⟩⟩

theorem takes_opening (depth : Nat) : Takes (opening depth) (4 + depth * 32) := by
  intro c hroom
  obtain ⟨raw, c₁, hraw, hlen₁⟩ := takes_take 4 c (by omega)
  obtain ⟨siblings, c₂, hsiblings, hlen₂⟩ := takes_many takes_digest depth c₁ (by omega)
  refine ⟨⟨Felt.ofRawBytes raw, siblings⟩, c₂, ?_, by omega⟩
  exact bind_eq_ok_iff.2 ⟨_, hraw, bind_eq_ok_iff.2 ⟨_, hsiblings, rfl⟩⟩

end Cursor

/-! ### Shapes -/

/-- A proof of the shape that a layout tells. -/
structure Proof.Shaped (l : ProofLayout) (p : Proof) : Prop where
  roots : p.roots.length = l.numColumns
  boundary : p.boundary.length = l.numBoundary
  queries : p.queries.length = l.numQueries
  /-- Every query opens each column at each row of the window. -/
  windows : ∀ q ∈ p.queries, q.length = l.numColumns * l.window
  siblings : ∀ o ∈ p.openings, o.siblings.length = l.merkleDepth

namespace ProofLayout

/-- Bytes of a proof, as a number that need not be a word. -/
def bytes (l : ProofLayout) : Nat :=
  l.numColumns * 32 +
    (l.numBoundary + l.numQueries * (l.numColumns * l.window)) * (4 + l.merkleDepth * 32)

/-- Every number on the way to the size of a proof is a word. -/
structure Fits (l : ProofLayout) : Prop where
  perQuery : l.numColumns * l.window < Word.limit
  queried : l.numQueries * (l.numColumns * l.window) < Word.limit
  openings : l.numBoundary + l.numQueries * (l.numColumns * l.window) < Word.limit
  roots : l.numColumns * 32 < Word.limit
  siblings : l.merkleDepth * 32 < Word.limit
  opening : 4 + l.merkleDepth * 32 < Word.limit
  opened : (l.numBoundary + l.numQueries * (l.numColumns * l.window)) *
    (4 + l.merkleDepth * 32) < Word.limit
  proof : l.bytes < Word.limit

theorem openingsPerQuery_eq_ok_iff {l : ProofLayout} {count : Nat} :
    l.openingsPerQuery = .ok count ↔
      l.numColumns * l.window = count ∧ l.numColumns * l.window < Word.limit :=
  Word.mul_eq_ok_iff

theorem proofSize_eq_ok_iff {l : ProofLayout} {size : Nat} :
    l.proofSize = .ok size ↔ l.bytes = size ∧ l.Fits := by
  simp only [proofSize, openingSize, openingsPerQuery, bind_eq_ok_iff, Word.mul_eq_ok_iff,
    Word.add_eq_ok_iff]
  constructor
  · intro h
    obtain ⟨_, ⟨rfl, h₁⟩, _, ⟨rfl, h₂⟩, _, ⟨rfl, h₃⟩, _, ⟨rfl, h₄⟩, _, ⟨_, ⟨rfl, h₅⟩, rfl, h₆⟩,
      _, ⟨rfl, h₇⟩, rfl, h₈⟩ := h
    exact ⟨rfl, h₁, h₂, h₃, h₄, h₅, h₆, h₇, h₈⟩
  · intro h
    obtain ⟨rfl, h⟩ := h
    exact ⟨_, ⟨rfl, h.perQuery⟩, _, ⟨rfl, h.queried⟩, _, ⟨rfl, h.openings⟩, _, ⟨rfl, h.roots⟩,
      _, ⟨_, ⟨rfl, h.siblings⟩, rfl, h.opening⟩, _, ⟨rfl, h.opened⟩, rfl, h.proof⟩

end ProofLayout

theorem length_flatMap_of_forall {α β : Type} {form : α → List β} {width : Nat} {as : List α}
    (h : ∀ a ∈ as, (form a).length = width) : (as.flatMap form).length = as.length * width := by
  induction as with
  | nil => simp
  | cons a rest ih =>
    obtain ⟨ha, hrest⟩ := List.forall_mem_cons.1 h
    rw [List.flatMap_cons, List.length_append, ha, ih hrest, List.length_cons, Nat.succ_mul,
      Nat.add_comm]

/-- Forms of one width come apart again when their number is known. -/
theorem eq_of_flatMap_eq {α β : Type} {form : α → List β} {width : Nat} {as bs : List α}
    (hwidth : ∀ a, (form a).length = width) (hform : Function.Injective form)
    (hlen : as.length = bs.length) (h : as.flatMap form = bs.flatMap form) : as = bs := by
  induction as generalizing bs with
  | nil => exact (List.eq_nil_of_length_eq_zero hlen.symm).symm
  | cons a as ih =>
    cases bs with
    | nil => cases hlen
    | cons b bs =>
      rw [List.flatMap_cons, List.flatMap_cons] at h
      obtain ⟨hfirst, hrest⟩ := List.append_inj h ((hwidth a).trans (hwidth b).symm)
      rw [hform hfirst, ih (Nat.succ.inj hlen) hrest]

theorem Opening.length_toBytes (o : Opening) :
    o.toBytes.length = 4 + o.siblings.length * 32 := by
  rw [toBytes, List.length_append, o.value.length_toBytes,
    length_flatMap_of_forall fun d _ => d.length_bytes]

namespace Proof

variable {l : ProofLayout} {p : Proof}

theorem Shaped.siblings_boundary (h : p.Shaped l) {o : Opening} (ho : o ∈ p.boundary) :
    o.siblings.length = l.merkleDepth := h.siblings o (List.mem_append_left _ ho)

theorem Shaped.siblings_query (h : p.Shaped l) {q : List Opening} {o : Opening}
    (hq : q ∈ p.queries) (ho : o ∈ q) : o.siblings.length = l.merkleDepth :=
  h.siblings o (List.mem_append_right _ (List.mem_flatten.2 ⟨q, hq, ho⟩))

theorem Shaped.length_openings (h : p.Shaped l) :
    p.openings.length = l.numBoundary + l.numQueries * (l.numColumns * l.window) := by
  have hqueries : p.queries.flatten.length = p.queries.length * (l.numColumns * l.window) := by
    rw [← List.flatMap_id', length_flatMap_of_forall h.windows]
  rw [openings, List.length_append, h.boundary, hqueries, h.queries]

theorem Shaped.length_toBytes (h : p.Shaped l) : p.toBytes.length = l.bytes := by
  have hroots : (p.roots.flatMap Digest.bytes).length = l.numColumns * 32 := by
    rw [length_flatMap_of_forall fun d _ => d.length_bytes, h.roots]
  have hwidth : ∀ o ∈ p.openings, o.toBytes.length = 4 + l.merkleDepth * 32 := by
    intro o ho
    rw [o.length_toBytes, h.siblings o ho]
  rw [toBytes, List.length_append, hroots, length_flatMap_of_forall hwidth, h.length_openings,
    ProofLayout.bytes]

theorem toBytes_eq (p : Proof) : p.toBytes = p.roots.flatMap Digest.bytes ++
    (p.boundary.flatMap Opening.toBytes ++
      p.queries.flatMap (List.flatMap Opening.toBytes)) := by
  rw [toBytes, openings, List.flatMap_append, ← List.flatMap_id, List.flatMap_assoc]
  rfl

/-- What is read is a proof of the shape, and what was read is its stored form. -/
theorem parse_eq_ok_iff {bytes : Bytes} :
    parse l (l.numColumns * l.window) bytes = .ok p ↔
      p.Shaped l ∧ ∃ rest, bytes = p.toBytes ++ rest := by
  have hroots := Cursor.reads_many Cursor.reads_digest l.numColumns
  have hboundary := Cursor.reads_many (Cursor.reads_opening l.merkleDepth) l.numBoundary
  have hqueries := Cursor.reads_many (Cursor.reads_many (Cursor.reads_opening l.merkleDepth)
    (l.numColumns * l.window)) l.numQueries
  simp only [parse, bind_eq_ok_iff]
  constructor
  · intro h
    obtain ⟨⟨roots, c₁⟩, h₁, ⟨boundary, c₂⟩, h₂, ⟨queries, c₃⟩, h₃, hok⟩ := h
    cases hok
    obtain ⟨⟨hlen, -⟩, hbytes₁, -⟩ := (hroots ..).1 h₁
    obtain ⟨⟨hlen', hpaths⟩, hbytes₂, -⟩ := (hboundary ..).1 h₂
    obtain ⟨⟨hlen'', hwindows⟩, hbytes₃, -⟩ := (hqueries ..).1 h₃
    refine ⟨⟨hlen, hlen', hlen'', fun q hq => (hwindows q hq).1, ?_⟩, c₃.rest, ?_⟩
    · intro o ho
      rcases List.mem_append.1 ho with ho | ho
      · exact hpaths o ho
      · obtain ⟨q, hq, ho⟩ := List.mem_flatten.1 ho
        exact (hwindows q hq).2 o ho
    · dsimp only at hbytes₁
      rw [hbytes₁, hbytes₂, hbytes₃, toBytes_eq]
      simp only [List.append_assoc]
  · intro h
    obtain ⟨hshape, rest, hbytes⟩ := h
    rw [toBytes_eq] at hbytes
    simp only [List.append_assoc] at hbytes
    have hpaths : ∀ o ∈ p.boundary, o.siblings.length = l.merkleDepth := fun _ =>
      hshape.siblings_boundary
    have hwindows : ∀ q ∈ p.queries, q.length = l.numColumns * l.window ∧
        ∀ o ∈ q, o.siblings.length = l.merkleDepth := fun q hq =>
      ⟨hshape.windows q hq, fun _ => hshape.siblings_query hq⟩
    obtain ⟨c₁, h₁, hrest₁⟩ :=
      hroots.step (c := ⟨0, bytes⟩) ⟨hshape.roots, fun _ _ => trivial⟩ hbytes
    obtain ⟨c₂, h₂, hrest₂⟩ := hboundary.step ⟨hshape.boundary, hpaths⟩ hrest₁
    obtain ⟨c₃, h₃, -⟩ := hqueries.step ⟨hshape.queries, hwindows⟩ hrest₂
    exact ⟨(p.roots, c₁), h₁, (p.boundary, c₂), h₂, (p.queries, c₃), h₃, rfl⟩

/-- Reading does not run out of bytes on a byte string of the right length. -/
theorem exists_shaped_of_length {bytes : Bytes} (h : bytes.length = l.bytes) :
    ∃ p : Proof, p.Shaped l ∧ bytes = p.toBytes := by
  have hopenings := Cursor.takes_opening l.merkleDepth
  have hsize : l.numColumns * 32 + (l.numBoundary * (4 + l.merkleDepth * 32) +
      l.numQueries * (l.numColumns * l.window * (4 + l.merkleDepth * 32))) = bytes.length := by
    rw [h, ProofLayout.bytes, Nat.add_mul, Nat.mul_assoc l.numQueries]
  obtain ⟨roots, c₁, h₁, hlen₁⟩ :=
    Cursor.takes_many Cursor.takes_digest l.numColumns ⟨0, bytes⟩ (by dsimp only; omega)
  obtain ⟨boundary, c₂, h₂, hlen₂⟩ :=
    Cursor.takes_many hopenings l.numBoundary c₁ (by dsimp only at hlen₁; omega)
  obtain ⟨queries, c₃, h₃, -⟩ :=
    Cursor.takes_many (Cursor.takes_many hopenings (l.numColumns * l.window)) l.numQueries c₂
      (by dsimp only at hlen₁; omega)
  have hparse : parse l (l.numColumns * l.window) bytes = .ok ⟨roots, boundary, queries⟩ := by
    simp only [parse, bind_eq_ok_iff]
    exact ⟨(roots, c₁), h₁, (boundary, c₂), h₂, (queries, c₃), h₃, rfl⟩
  obtain ⟨hshape, rest, hbytes⟩ := parse_eq_ok_iff.1 hparse
  have hrest : rest = [] := by
    have hlen := congrArg List.length hbytes
    rw [List.length_append, hshape.length_toBytes, h] at hlen
    exact List.length_eq_zero_iff.1 (by omega)
  exact ⟨_, hshape, by rw [hbytes, hrest, List.append_nil]⟩

/-- A byte string is read as a proof if and only if it is the stored form of a proof of the shape,
provided that sizes are words. -/
theorem ofBytes_eq_ok_iff {bytes : Bytes} :
    ofBytes l bytes = .ok p ↔ l.Fits ∧ p.Shaped l ∧ bytes = p.toBytes := by
  unfold ofBytes
  constructor
  · intro h
    obtain ⟨size, hsize, h⟩ := bind_eq_ok_iff.1 h
    obtain ⟨rfl, hfits⟩ := ProofLayout.proofSize_eq_ok_iff.1 (Outcome.ofFaulting_eq_ok_iff.1 hsize)
    split at h
    · cases h
    · rename_i hlen
      obtain ⟨perQuery, hcount, hparse⟩ := bind_eq_ok_iff.1 h
      obtain ⟨rfl, -⟩ :=
        ProofLayout.openingsPerQuery_eq_ok_iff.1 (Outcome.ofFaulting_eq_ok_iff.1 hcount)
      obtain ⟨hshape, rest, hbytes⟩ := parse_eq_ok_iff.1 (Outcome.ofResult_eq_ok_iff.1 hparse)
      have hrest : rest = [] := by
        rw [Classical.not_not, hbytes, List.length_append, hshape.length_toBytes] at hlen
        exact List.length_eq_zero_iff.1 (by omega)
      exact ⟨hfits, hshape, by rw [hbytes, hrest, List.append_nil]⟩
  · intro h
    obtain ⟨hfits, hshape, rfl⟩ := h
    have hsize : l.proofSize = .ok l.bytes := ProofLayout.proofSize_eq_ok_iff.2 ⟨rfl, hfits⟩
    have hcount : l.openingsPerQuery = .ok (l.numColumns * l.window) :=
      ProofLayout.openingsPerQuery_eq_ok_iff.2 ⟨rfl, hfits.perQuery⟩
    have hparse : parse l (l.numColumns * l.window) p.toBytes = .ok p :=
      parse_eq_ok_iff.2 ⟨hshape, [], (List.append_nil _).symm⟩
    simp [hsize, hcount, hparse, hshape.length_toBytes, bind, Except.bind]

theorem ofBytes_of_length_ne {bytes : Bytes} {size : Nat} (hsize : l.proofSize = .ok size)
    (hlen : bytes.length ≠ size) :
    ofBytes l bytes = Outcome.refuse (.sizeMismatch size bytes.length) := by
  simp [ofBytes, hsize, hlen, bind, Except.bind]

/-! ### Main theorem -/

/-- The byte strings of the size of a layout are the stored forms of the proofs of its shape, one
form for each proof, and every other byte string is refused for its length. -/
theorem stored_forms_of_layout {size : Nat} (hsize : l.proofSize = .ok size) :
    (∀ bytes, (∃ p, ofBytes l bytes = .ok p) ↔ bytes.length = size) ∧
    (∀ bytes stop, ofBytes l bytes = .error stop ↔
      bytes.length ≠ size ∧ stop = .refused (.sizeMismatch size bytes.length)) ∧
    (∀ bytes p, ofBytes l bytes = .ok p → p.Shaped l ∧ p.toBytes = bytes) ∧
    ∀ p : Proof, p.Shaped l → p.toBytes.length = size ∧ ofBytes l p.toBytes = .ok p := by
  obtain ⟨rfl, hfits⟩ := ProofLayout.proofSize_eq_ok_iff.1 hsize
  have hread : ∀ bytes, bytes.length = l.bytes → ∃ p, ofBytes l bytes = .ok p := by
    intro bytes hlen
    obtain ⟨p, hshape, hbytes⟩ := exists_shaped_of_length hlen
    exact ⟨p, ofBytes_eq_ok_iff.2 ⟨hfits, hshape, hbytes⟩⟩
  refine ⟨fun bytes => ⟨fun h => ?_, hread bytes⟩, fun bytes stop => ⟨fun h => ?_, fun h => ?_⟩,
    fun bytes p h => ?_, fun p hshape => ?_⟩
  · obtain ⟨p, hp⟩ := h
    obtain ⟨-, hshape, rfl⟩ := ofBytes_eq_ok_iff.1 hp
    exact hshape.length_toBytes
  · have hlen : bytes.length ≠ l.bytes := by
      intro hlen
      obtain ⟨p, hp⟩ := hread bytes hlen
      rw [hp] at h
      cases h
    rw [ofBytes_of_length_ne hsize hlen] at h
    exact ⟨hlen, (Except.error.inj h).symm⟩
  · obtain ⟨hlen, rfl⟩ := h
    exact ofBytes_of_length_ne hsize hlen
  · obtain ⟨-, hshape, rfl⟩ := ofBytes_eq_ok_iff.1 h
    exact ⟨hshape, rfl⟩
  · exact ⟨hshape.length_toBytes, ofBytes_eq_ok_iff.2 ⟨hfits, hshape, rfl⟩⟩

/-- A column of two rows, one asserted cell and one query of two rows, all with the largest word,
which is no canonical value. -/
def largestWords : Proof :=
  let d : Digest := ⟨List.replicate 32 0xff, rfl⟩
  let o : Opening := ⟨⟨0xffffffff⟩, [d]⟩
  ⟨[d], [o], [[o, o]]⟩

theorem stored_forms_of_largestWords :
    largestWords.toBytes.length = 140 ∧
      ofBytes ⟨1, 1, 1, 1, 2⟩ largestWords.toBytes = .ok largestWords ∧
      ofBytes ⟨1, 1, 1, 1, 2⟩ largestWords.toBytes.dropLast =
        Outcome.refuse (.sizeMismatch 140 139) := by
  have hshape : largestWords.Shaped ⟨1, 1, 1, 1, 2⟩ := ⟨rfl, rfl, rfl, by decide, by decide⟩
  obtain ⟨-, hrefused, -, hstored⟩ :=
    stored_forms_of_layout (l := ⟨1, 1, 1, 1, 2⟩) (show _ = Except.ok 140 from rfl)
  obtain ⟨hlen, hread⟩ := hstored _ hshape
  have hshort : largestWords.toBytes.dropLast.length = 139 := by
    rw [List.length_dropLast, hlen]
  refine ⟨hlen, hread, (hrefused _ _).2 ⟨by omega, ?_⟩⟩
  rw [hshort]

end Proof

end SpotCheck
