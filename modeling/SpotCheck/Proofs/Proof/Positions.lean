import Mathlib.Data.List.TakeDrop
import SpotCheck.Proofs.Proof.Codec
import SpotCheck.Proofs.Trace

/-!
# Where the parts of a stored proof stand

The roots of a stored proof are of one width and its openings of another, so that the number of a
part is all that its position depends on. Reading a part at its position gives the part of the
proof, without a walk over those in front of it.
-/

namespace SpotCheck

/-! ### Parts of a byte string -/

/-- The digest in the thirty-two bytes from a position on; a byte beyond the end counts as zero. -/
def Digest.inBytes (bytes : Bytes) (start : Nat) : Digest where
  bytes := (bytes.drop start).takeD 32 0
  length_bytes := List.takeD_length ..

/-- The opening from a position on: four bytes of its value, then so many digests. -/
def Opening.inBytes (bytes : Bytes) (depth start : Nat) : Opening where
  value := Felt.ofRawBytes ((bytes.drop start).take 4)
  siblings := (List.range depth).map fun level => Digest.inBytes bytes (start + 4 + 32 * level)

theorem Digest.inBytes_eq {bytes rest : Bytes} {start : Nat} {d : Digest}
    (h : bytes.drop start = d.bytes ++ rest) : inBytes bytes start = d := by
  apply Digest.ext_bytes
  show (bytes.drop start).takeD 32 0 = d.bytes
  rw [h, List.takeD_left' d.length_bytes]

/-- Where an opening stands, nothing in front of it matters. -/
theorem Opening.inBytes_congr {bytes bytes' : Bytes} {start : Nat}
    (h : bytes.drop start = bytes'.drop start) (depth further : Nat) :
    inBytes bytes depth (start + further) = inBytes bytes' depth (start + further) := by
  have hdrop : ∀ more, bytes.drop (start + more) = bytes'.drop (start + more) := by
    intro more
    rw [← List.drop_drop, h, List.drop_drop]
  simp only [inBytes, Digest.inBytes, Nat.add_assoc, hdrop]

theorem drop_flatMap {α β : Type} {form : α → List β} {width : Nat} {as : List α}
    (h : ∀ a ∈ as, (form a).length = width) (i : Nat) :
    (as.flatMap form).drop (i * width) = (as.drop i).flatMap form := by
  induction as generalizing i with
  | nil => simp
  | cons a as ih =>
    obtain ⟨ha, hrest⟩ := List.forall_mem_cons.1 h
    cases i with
    | zero => simp
    | succ i =>
      have hsplit : (i + 1) * width = (form a).length + i * width := by
        rw [ha, Nat.succ_mul, Nat.add_comm]
      rw [List.flatMap_cons, hsplit, ← List.drop_drop, List.drop_left, ih hrest,
        List.drop_succ_cons]

/-- A list is what a reader gives for each position, if it gives the elements. -/
theorem eq_map_range_of_read {α : Type} {as : List α} {read : Nat → α}
    (h : ∀ i a, as[i]? = some a → read i = a) : as = (List.range as.length).map read := by
  apply List.ext_getElem?
  intro i
  cases ha : as[i]? with
  | none =>
    have hle := List.getElem?_eq_none_iff.1 ha
    rw [eq_comm, List.getElem?_eq_none_iff, List.length_map, List.length_range]
    exact hle
  | some a =>
    have hlt := (List.getElem?_eq_some_iff.1 ha).1
    rw [List.getElem?_map, List.getElem?_range hlt, Option.map_some, h i a ha]

theorem drop_eq_cons_of_getElem? {α : Type} {as : List α} {i : Nat} {a : α}
    (h : as[i]? = some a) : as.drop i = a :: as.drop (i + 1) := by
  obtain ⟨hlt, rfl⟩ := List.getElem?_eq_some_iff.1 h
  exact List.drop_eq_getElem_cons hlt

theorem Opening.inBytes_eq {bytes rest : Bytes} {start : Nat} {o : Opening}
    (h : bytes.drop start = o.toBytes ++ rest) : inBytes bytes o.siblings.length start = o := by
  have hvalue : (bytes.drop start).take 4 = o.value.toBytes := by
    rw [h, toBytes, List.append_assoc, List.take_left' o.value.length_toBytes]
  have hpath : bytes.drop (start + 4) = o.siblings.flatMap Digest.bytes ++ rest := by
    rw [← List.drop_drop, h, toBytes, List.append_assoc, List.drop_left' o.value.length_toBytes]
  have hread : ∀ level d, o.siblings[level]? = some d →
      Digest.inBytes bytes (start + 4 + 32 * level) = d := by
    intro level d hd
    have hle : level * 32 ≤ (o.siblings.flatMap Digest.bytes).length := by
      rw [length_flatMap_of_forall fun d _ => d.length_bytes]
      have hlt := (List.getElem?_eq_some_iff.1 hd).1
      omega
    apply Digest.inBytes_eq
    rw [← List.drop_drop, hpath, Nat.mul_comm, List.drop_append_of_le_length hle,
      drop_flatMap (fun d _ => d.length_bytes), drop_eq_cons_of_getElem? hd, List.flatMap_cons,
      List.append_assoc]
  rw [inBytes, hvalue, Felt.ofRawBytes_toBytes, ← eq_map_range_of_read hread]

/-! ### Parts of a proof -/

namespace ProofLayout

def openingWidth (l : ProofLayout) : Nat := 4 + l.merkleDepth * 32

/-- The root of a column. -/
def rootIn (bytes : Bytes) (column : Nat) : Digest := Digest.inBytes bytes (32 * column)

/-- The opening with a number, those of the boundary first. -/
def openingIn (l : ProofLayout) (bytes : Bytes) (number : Nat) : Opening :=
  Opening.inBytes bytes l.merkleDepth (32 * l.numColumns + number * l.openingWidth)

/-- The opening of a query for a place of its window. -/
def queryIn (l : ProofLayout) (bytes : Bytes) (query offset column : Nat) : Opening :=
  l.openingIn bytes
    (l.numBoundary + query * l.numColumns * l.window + offset * l.numColumns + column)

end ProofLayout

namespace Proof.Shaped

variable {l : ProofLayout} {p : Proof}

theorem length_roots_toBytes (h : p.Shaped l) :
    (p.roots.flatMap Digest.bytes).length = 32 * l.numColumns := by
  rw [length_flatMap_of_forall fun d _ => d.length_bytes, h.roots, Nat.mul_comm]

theorem take_toBytes (h : p.Shaped l) :
    p.toBytes.take (32 * l.numColumns) = p.roots.flatMap Digest.bytes := by
  rw [toBytes, List.take_left' h.length_roots_toBytes]

/-- The first bytes determine the roots. -/
theorem roots_unique (h : p.Shaped l) {roots : List Digest} (hlen : roots.length = l.numColumns)
    (htake : p.toBytes.take (32 * l.numColumns) = roots.flatMap Digest.bytes) :
    p.roots = roots := by
  rw [h.take_toBytes] at htake
  exact eq_of_flatMap_eq Digest.length_bytes_eq (fun _ _ => Digest.ext_bytes)
    (h.roots.trans hlen.symm) htake

theorem drop_toBytes (h : p.Shaped l) :
    p.toBytes.drop (32 * l.numColumns) = p.openings.flatMap Opening.toBytes := by
  rw [toBytes, List.drop_left' h.length_roots_toBytes]

theorem rootIn_toBytes (h : p.Shaped l) {column : Nat} {root : Digest}
    (hroot : p.roots[column]? = some root) : ProofLayout.rootIn p.toBytes column = root := by
  have hlt := (List.getElem?_eq_some_iff.1 hroot).1
  have hle : column * 32 ≤ (p.roots.flatMap Digest.bytes).length := by
    rw [h.length_roots_toBytes, ← h.roots]
    omega
  apply Digest.inBytes_eq
  rw [toBytes, Nat.mul_comm, List.drop_append_of_le_length hle,
    drop_flatMap (fun d _ => d.length_bytes), drop_eq_cons_of_getElem? hroot, List.flatMap_cons,
    List.append_assoc]

theorem openingIn_toBytes (h : p.Shaped l) {number : Nat} {o : Opening}
    (ho : p.openings[number]? = some o) : l.openingIn p.toBytes number = o := by
  have hwidth : ∀ o ∈ p.openings, o.toBytes.length = l.openingWidth := by
    intro o ho
    rw [o.length_toBytes, h.siblings o ho]
    rfl
  have hpath := h.siblings o (List.mem_of_getElem? ho)
  rw [ProofLayout.openingIn, ← hpath]
  apply Opening.inBytes_eq
  rw [← List.drop_drop, h.drop_toBytes, drop_flatMap hwidth, drop_eq_cons_of_getElem? ho,
    List.flatMap_cons]

theorem roots_eq (h : p.Shaped l) :
    p.roots = (List.range l.numColumns).map (ProofLayout.rootIn p.toBytes) := by
  rw [← h.roots]
  exact eq_map_range_of_read fun _ _ => h.rootIn_toBytes

theorem openings_eq (h : p.Shaped l) :
    p.openings = (List.range (l.numBoundary + l.numQueries * (l.numColumns * l.window))).map
      (l.openingIn p.toBytes) := by
  rw [← h.length_openings]
  exact eq_map_range_of_read fun _ _ => h.openingIn_toBytes

theorem boundary_eq (h : p.Shaped l) :
    p.boundary = (List.range l.numBoundary).map (l.openingIn p.toBytes) := by
  rw [← h.boundary]
  refine eq_map_range_of_read fun i o ho => h.openingIn_toBytes ?_
  rw [openings, List.getElem?_append_left (List.getElem?_eq_some_iff.1 ho).1, ho]

/-- The queries stand one after another behind the boundary, each window row by row. -/
theorem queryIn_toBytes (h : p.Shaped l) {query offset column : Nat} {q : List Opening}
    {o : Opening} (hq : p.queries[query]? = some q)
    (ho : q[offset * l.numColumns + column]? = some o) :
    l.queryIn p.toBytes query offset column = o := by
  -- The windows are of one width, so that those in front of a query take so many openings.
  have hdrop : p.queries.flatten.drop (query * (l.numColumns * l.window)) =
      q ++ (p.queries.drop (query + 1)).flatten := by
    rw [← List.flatMap_id', drop_flatMap h.windows, drop_eq_cons_of_getElem? hq,
      List.flatMap_cons, List.flatMap_id']
  have hnumber : l.numBoundary + query * l.numColumns * l.window + offset * l.numColumns + column =
      p.boundary.length +
        (query * (l.numColumns * l.window) + (offset * l.numColumns + column)) := by
    rw [h.boundary, Nat.mul_assoc]
    omega
  rw [ProofLayout.queryIn, hnumber]
  apply h.openingIn_toBytes
  rw [openings, List.getElem?_append_right (Nat.le_add_right ..), Nat.add_sub_cancel_left,
    ← List.getElem?_drop, hdrop, List.getElem?_append_left (List.getElem?_eq_some_iff.1 ho).1, ho]

theorem queries_eq (h : p.Shaped l) :
    p.queries = (List.range l.numQueries).map fun query =>
      (windowPlaces l.window l.numColumns).map fun place =>
        l.queryIn p.toBytes query place.1 place.2 := by
  rw [← h.queries]
  refine eq_map_range_of_read fun query q hq => ?_
  have hlen := h.windows q (List.mem_of_getElem? hq)
  rw [windowPlaces_eq_map, List.map_map, Nat.mul_comm, ← hlen]
  refine (eq_map_range_of_read fun number o ho => ?_).symm
  apply h.queryIn_toBytes hq
  rw [Nat.div_add_mod', ho]

end Proof.Shaped

end SpotCheck
