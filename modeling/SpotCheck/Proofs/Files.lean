import Mathlib.Data.String.Basic
import SpotCheck.Files
import SpotCheck.Proofs.Steps
import SpotCheck.Proofs.Text

/-!
# Files that were written

What is written under a name is read under that name. The way to the file leads through
directories only, and those stay as they were.
-/

namespace SpotCheck.Files

/-! ### Parts of names -/

section Parts

open String

theorem splitOnAux_slash (l m r : List Char) (acc : List String) :
    splitOnAux (ofList (l ++ m ++ r)) "/" ⟨utf8Len l⟩ ⟨utf8Len l + utf8Len m⟩ 0 acc =
      acc.reverse ++ (List.splitOnPPrepend (· == '/') r m.reverse).map ofList := by
  -- Behind the parts that are done stands `m`, the part under way, and then what is left to read.
  induction r generalizing l m acc with
  | nil =>
    have hend : Pos.Raw.atEnd (ofList (l ++ m ++ [])) ⟨utf8Len l + utf8Len m⟩ := by
      simp [-ofList_append, atEnd_iff, rawEndPos_ofList]
    have hextract := extract_of_valid l m []
    rw [splitOnAux, if_pos hend, hextract]
    simp
  | cons c r ih =>
    have hget := get_of_valid (l ++ m) (c :: r)
    have hnext := next_of_valid (l ++ m) c r
    have hextract := extract_of_valid l m (c :: r)
    rw [utf8Len_append] at hget hnext
    have hend : ¬ Pos.Raw.atEnd (ofList (l ++ m ++ c :: r)) ⟨utf8Len l + utf8Len m⟩ := by
      have hpos := c.utf8Size_pos
      rw [atEnd_iff, rawEndPos_ofList, Pos.Raw.mk_le_mk, utf8Len_append, utf8Len_append,
        utf8Len_cons]
      omega
    have hslash : Pos.Raw.get "/" 0 = '/' := by decide
    rw [splitOnAux, if_neg hend, hget, hslash]
    by_cases hc : c = '/'
    · subst hc
      have hone : Pos.Raw.next "/" 0 = ⟨1⟩ := by decide
      have hover : Pos.Raw.atEnd "/" ⟨1⟩ = true := by decide
      have hback : Pos.Raw.unoffsetBy ⟨utf8Len l + utf8Len m + '/'.utf8Size⟩ ⟨1⟩ =
          ⟨utf8Len l + utf8Len m⟩ := rfl
      have hlist : l ++ m ++ ['/'] ++ [] ++ r = l ++ m ++ '/' :: r := by simp
      have hlength : utf8Len (l ++ m ++ ['/']) = utf8Len l + utf8Len m + '/'.utf8Size := by
        simp [Nat.add_assoc]
      have hrest := ih (l ++ m ++ ['/']) [] (ofList m :: acc)
      rw [hlist, hlength, utf8Len_nil, Nat.add_zero] at hrest
      rw [if_pos (by rfl), hone, if_pos hover, hnext, hback, hextract, hrest,
        List.splitOnPPrepend_cons_pos (by rfl)]
      simp
    · have hback : Pos.Raw.unoffsetBy ⟨utf8Len l + utf8Len m⟩ 0 = ⟨utf8Len l + utf8Len m⟩ := rfl
      have hlist : l ++ (m ++ [c]) ++ r = l ++ m ++ c :: r := by simp
      have hlength : utf8Len l + utf8Len (m ++ [c]) = utf8Len l + utf8Len m + c.utf8Size := by
        simp [Nat.add_assoc]
      have hrest := ih l (m ++ [c]) acc
      rw [hlist, hlength] at hrest
      rw [if_neg (by simpa using hc), hback, hnext, hrest,
        List.splitOnPPrepend_cons_neg (by simpa using hc)]
      simp

theorem splitOn_slash (name : String) :
    name.splitOn "/" = (name.toList.splitOn '/').map ofList := by
  have h := splitOnAux_slash [] [] name.toList []
  rw [List.splitOn_eq_splitOnP]
  simpa [splitOn] using h

theorem endsWith_slash_iff (name : String) : name.endsWith "/" ↔ ['/'] <:+ name.toList := by
  have h : name.toSlice.endsWith "/" ↔ "/".toList <:+ name.toSlice.copy.toList :=
    Slice.endsWith_string_iff
  rwa [copy_toSlice] at h

end Parts

theorem suffix_intercalate {parts : List (List Char)} (h : parts ≠ []) :
    ['/'] <:+ ['/'].intercalate (parts ++ [[]]) := by
  induction parts with
  | nil => exact absurd rfl h
  | cons part parts ih =>
    cases parts with
    | nil => exact ⟨part, by simp⟩
    | cons next parts =>
      rw [List.cons_append, List.cons_append, List.intercalate_cons_cons]
      exact (ih (by simp)).trans (List.suffix_append _ _)

theorem getLast?_splitOn_slash {name : String} (hname : name ≠ "") (h : ¬ name.endsWith "/") :
    (name.splitOn "/").getLast? ≠ some "" := by
  intro hlast
  rw [splitOn_slash, List.getLast?_map, Option.map_eq_some_iff] at hlast
  obtain ⟨part, hpart, hempty⟩ := hlast
  obtain rfl : part = [] := by simpa using hempty
  obtain ⟨parts, hparts⟩ := List.getLast?_eq_some_iff.1 hpart
  have hback : ['/'].intercalate (name.toList.splitOn '/') = name.toList :=
    List.intercalate_splitOn '/'
  rw [hparts] at hback
  by_cases hnone : parts = []
  · subst hnone
    have hnil : name.toList = [] := by simpa using hback.symm
    exact hname (by simpa using hnil)
  · rw [endsWith_slash_iff, ← hback] at h
    exact h (suffix_intercalate hnone)

theorem partsOfNew_eq_parts {name : String} (h : ¬ name.endsWith "/") :
    partsOfNew name = parts name := by
  unfold partsOfNew parts
  split_ifs with hzero hname hlength
  · rfl
  · rfl
  · rfl
  · have hlast := getLast?_splitOn_slash hname h
    have hdrop : (name.splitOn "/").reverse.dropWhile (· = "") = (name.splitOn "/").reverse := by
      rw [← List.head?_reverse] at hlast
      cases hparts : (name.splitOn "/").reverse with
      | nil => rfl
      | cons last rest =>
        have hne : last ≠ "" := by simpa [hparts] using hlast
        rw [List.dropWhile_cons, if_neg (by simpa using hne)]
    simp only [bind, Except.bind]
    rw [hdrop, List.reverse_reverse]

/-! ### Changes -/

variable {files : Files} {path other : List String} {node : Node}

theorem node?_put_self (h : leadsUp path = false) :
    (files.put path node).node? path = some node := by
  rw [node?, if_neg (by simp [h]), put, List.lookup_cons_self]

theorem node?_put_of_ne (h : other ≠ path) :
    (files.put path node).node? other = files.node? other := by
  have hfilter (nodes : List (List String × Node)) :
      (nodes.filter (·.1 ≠ path)).lookup other = nodes.lookup other := by
    induction nodes with
    | nil => rfl
    | cons entry nodes ih =>
      obtain ⟨place, found⟩ := entry
      by_cases hplace : place = path
      · subst hplace
        rw [List.filter_cons_of_neg (by simp), ih, List.lookup_cons, beq_false_of_ne h]
      · rw [List.filter_cons_of_pos (by simpa using hplace), List.lookup_cons, List.lookup_cons, ih]
  rw [node?, node?, put, List.lookup_cons, beq_false_of_ne h, hfilter]

/-- The way to a place that is no directory does not lead through it. -/
theorem walk_put (hplace : files.node? path ≠ some .directory) {start rest : List String}
    (h : files.walk start rest = .ok path) : (files.put path node).walk start rest = .ok path := by
  induction rest generalizing start with
  | nil => exact h
  | cons part rest ih =>
    rw [walk] at h ⊢
    cases hstart : files.node? start with
    | none =>
      rw [hstart] at h
      cases h
    | some found =>
      cases found with
      | file contents =>
        rw [hstart] at h
        cases h
      | directory =>
        have hne : start ≠ path := by
          rintro rfl
          exact hplace hstart
        rw [hstart] at h
        rw [node?_put_of_ne hne, hstart]
        dsimp only at h ⊢
        split_ifs at h ⊢
        · exact ih h
        · exact ih h
        · exact ih h

theorem write_eq_ok_iff {name : String} {contents : Bytes} {after : Files} :
    files.write name contents = .ok after ↔ ¬ name.endsWith "/" ∧
      ∃ path, files.locate name = .ok path ∧ files.node? path ≠ some .directory ∧
        after = files.put path (.file contents) := by
  rw [write]
  by_cases hname : name.endsWith "/"
  · simp only [if_pos hname, bind_eq_ok_iff]
    simp [hname]
  · simp only [if_neg hname, partsOfNew_eq_parts hname, locate, bind_eq_ok_iff]
    constructor
    · intro h
      obtain ⟨new, hnew, path, hpath, h⟩ := h
      split at h
      case h_1 => cases h
      case h_2 hplace =>
        exact ⟨hname, path, ⟨new, hnew, hpath⟩, hplace, (Except.ok.inj h).symm⟩
    · intro h
      obtain ⟨-, path, ⟨new, hnew, hpath⟩, hplace, rfl⟩ := h
      refine ⟨new, hnew, path, hpath, ?_⟩
      split
      case h_1 hdirectory => exact absurd hdirectory hplace
      case h_2 => rfl

theorem read_of_write {name : String} {contents : Bytes} {after : Files}
    (h : files.write name contents = .ok after) : after.read name = .ok contents := by
  obtain ⟨-, path, hpath, hplace, rfl⟩ := write_eq_ok_iff.1 h
  have hdown : leadsUp path = false := by
    by_contra hup
    rw [node?, if_pos (by simpa using hup)] at hplace
    exact hplace rfl
  obtain ⟨new, hnew, hwalk⟩ := bind_eq_ok_iff.1 hpath
  have hlocate : (files.put path (.file contents)).locate name = .ok path :=
    bind_eq_ok_iff.2 ⟨new, hnew, walk_put hplace hwalk⟩
  have hfound : (files.put path (.file contents)).node? path = some (.file contents) :=
    node?_put_self hdown
  rw [read, hlocate]
  simp only [bind, Except.bind, hfound]

theorem readText_eq {name text : String} (h : files.read name = .ok (Bytes.ofText text)) :
    files.readText name = .ok text := by
  have htext : Bytes.toText? (Bytes.ofText text) = some text := Bytes.toText?_eq_some_iff.2 rfl
  rw [readText, h]
  simp only [bind, Except.bind, htext]

theorem readText_of_write {name text : String} {after : Files}
    (h : files.write name (Bytes.ofText text) = .ok after) : after.readText name = .ok text :=
  readText_eq (read_of_write h)

/-! ### Plain names -/

/-- A name that stands for an entry of the working directory. -/
def IsPlain (name : String) : Prop :=
  '\x00' ∉ name.toList ∧ '/' ∉ name.toList ∧ name.utf8ByteSize ≤ 255 ∧
    name ≠ "" ∧ name ≠ "." ∧ name ≠ ".."

instance (name : String) : Decidable (IsPlain name) := inferInstanceAs (Decidable (_ ∧ _))

variable {name : String}

theorem IsPlain.parts_eq (h : IsPlain name) : parts name = .ok [name] := by
  obtain ⟨hzero, hslash, hlength, hempty, -⟩ := h
  have hcontains : name.contains '\x00' = false := by
    rw [String.contains_char_eq]
    exact decide_eq_false hzero
  have hsplit : name.splitOn "/" = [name] := by
    rw [splitOn_slash, List.splitOn_eq_singleton hslash, List.map_singleton, String.ofList_toList]
  rw [parts, hcontains, if_neg (by decide), if_neg hempty, if_neg (by omega), hsplit]

theorem IsPlain.locate_eq (h : IsPlain name) : files.locate name = .ok [name] := by
  have hparts := h.parts_eq
  obtain ⟨-, -, hlength, hempty, hdot, hdots⟩ := h
  have hroot : files.node? [] = some .directory := rfl
  have hentry : files.walk [] [name] = .ok [name] := by
    rw [walk, hroot]
    dsimp only
    rw [if_neg (by omega), if_neg (by simp [hempty, hdot]), if_neg hdots]
    rfl
  rw [locate, hparts]
  exact hentry

theorem IsPlain.read_eq (h : IsPlain name) {contents : Bytes}
    (hfile : files.node? [name] = some (.file contents)) : files.read name = .ok contents := by
  rw [read, h.locate_eq]
  simp only [bind, Except.bind, hfile]

theorem IsPlain.read_eq_missing (h : IsPlain name) (hfile : files.node? [name] = none) :
    files.read name = .error .missing := by
  rw [read, h.locate_eq]
  simp only [bind, Except.bind, hfile]

theorem IsPlain.write_eq (h : IsPlain name) (hfree : files.node? [name] ≠ some .directory)
    (contents : Bytes) : files.write name contents = .ok (files.put [name] (.file contents)) := by
  have hslash : ¬ name.endsWith "/" := by
    rw [endsWith_slash_iff]
    exact fun hsuffix => h.2.1 (hsuffix.subset (List.mem_singleton_self _))
  exact write_eq_ok_iff.2 ⟨hslash, [name], h.locate_eq, hfree, rfl⟩

end SpotCheck.Files
