import SpotCheck.Proofs.Steps
import SpotCheck.ReferenceString.Basic

/-!
# First points

Keys hold the first points of a reference string and their digest. Strings that start alike give
the same, and a string that has too few points is refused for its size.
-/

namespace SpotCheck.ReferenceString

variable {string other short long : ReferenceString} {count : Nat} {points : List Felt}

theorem take?_eq_ok_iff :
    string.take? count = .ok points ↔
      string.points.take count = points ∧ count ≤ string.points.length := ite_eq_ok_iff

theorem take?_eq_tooSmall (hcount : ¬ count ≤ short.size) :
    short.take? count = .error (.tooSmall count short.size) := if_neg hcount

/-- Strings with the same first points have the same prefix. -/
theorem take?_of_take_eq (h : string.take? count = .ok points)
    (hsame : other.points.take count = string.points.take count) :
    other.take? count = .ok points := by
  obtain ⟨hpoints, hle⟩ := take?_eq_ok_iff.1 h
  have hlen : (other.points.take count).length = count := by
    rw [hsame, List.length_take, Nat.min_eq_left hle]
  refine take?_eq_ok_iff.2 ⟨hsame.trans hpoints, ?_⟩
  rw [List.length_take] at hlen
  omega

theorem take?_eq_of_le (h : short.points <+: long.points) (hcount : count ≤ short.size) :
    long.take? count = short.take? count := by
  have hsize : short.size ≤ long.size := h.length_le
  obtain ⟨rest, hrest⟩ := h
  rw [take?, take?, if_pos hcount, if_pos (Nat.le_trans hcount hsize), ← hrest,
    List.take_append_of_le_length hcount]

theorem prefixDigest_eq_ok_iff {d : Digest} :
    string.prefixDigest count = .ok d ↔
      ∃ points, string.take? count = .ok points ∧ pointsDigest points = d := map_eq_ok_iff

theorem prefixDigest_size (s : ReferenceString) : s.prefixDigest s.size = .ok s.digest := by
  have htake : s.take? s.size = .ok s.points :=
    take?_eq_ok_iff.2 ⟨List.take_length, Nat.le_refl _⟩
  exact prefixDigest_eq_ok_iff.2 ⟨s.points, htake, rfl⟩

end SpotCheck.ReferenceString
