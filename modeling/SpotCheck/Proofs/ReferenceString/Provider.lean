import SpotCheck.ReferenceString.Provider

/-!
# Providers in use

A request leaves a provider as it is or has it load its string, once and for all. Where the files
have no say in what would be loaded, as with a seed or after loading, nobody can tell from the
answers which of the two has happened.
-/

namespace SpotCheck

theorem ReferenceString.eq_of_ensure {s string : ReferenceString} {least : Nat}
    (h : s.ensure least = .ok string) : s = string := by
  unfold ensure at h
  split at h
  · cases h
  · exact Except.ok.inj h

namespace Provider

open ReferenceString (Error)

variable {files : Files} {p q r : Provider}

/-- What becomes of a provider while the files stay as they are: it is as it was, or has loaded its
string. -/
inductive Loads (files : Files) (p : Provider) : Provider → Prop where
  | kept : Loads files p p
  | loaded {string : ReferenceString} (hcache : p.cache = none)
      (hload : load files p.source = .ok string) : Loads files p ⟨p.source, some string⟩

theorem loads_request (p : Provider) (files : Files) (least : Nat) :
    p.Loads files (p.request files least).2 := by
  unfold request
  cases hcache : p.cache with
  | some string => exact .kept
  | none =>
    cases hload : load files p.source with
    | error stop => exact .kept
    | ok string => exact .loaded hcache hload

theorem loaded_eq_ok_iff {source : Source} :
    loaded files source = .ok p ↔
      ∃ string, load files source = .ok string ∧ p = ⟨source, some string⟩ := by
  unfold loaded request
  cases hload : load files source with
  | error stop => simp [ofSource, hload]
  | ok string =>
    have hensure : string.ensure 0 = .ok string := if_neg (Nat.not_lt_zero _)
    simp [ofSource, hload, hensure, eq_comm]

/-- The files have no say in what the provider hands out. -/
def IsSteady (p : Provider) : Prop :=
  p.cache = none → ∀ files files', load files p.source = load files' p.source

theorem isSteady_default : default.IsSteady := fun _ _ _ => rfl

theorem IsSteady.answer_eq (h : p.IsSteady) (files files' : Files) (least : Nat) :
    (p.request files least).1 = (p.request files' least).1 := by
  unfold request
  cases hcache : p.cache with
  | some string => rfl
  | none => rw [h hcache files files']

/-- Providers of one source that give the same answer to every request. -/
structure Alike (p q : Provider) : Prop where
  source : q.source = p.source
  answers : ∀ files least, (q.request files least).1 = (p.request files least).1

theorem Alike.refl (p : Provider) : p.Alike p := ⟨rfl, fun _ _ => rfl⟩

theorem Alike.trans (h : p.Alike q) (h' : q.Alike r) : p.Alike r :=
  ⟨h'.source.trans h.source, fun files least =>
    (h'.answers files least).trans (h.answers files least)⟩

theorem Loads.trans (h : p.Loads files q) (h' : q.Loads files r) : p.Loads files r := by
  cases h with
  | kept => exact h'
  | loaded hcache hload =>
    cases h' with
    | kept => exact .loaded hcache hload
    | loaded hcache' => cases hcache'

/-- While the files stay as they are, nobody can tell whether the string has been loaded. -/
theorem Loads.answer_eq (h : p.Loads files q) (least : Nat) :
    (q.request files least).1 = (p.request files least).1 := by
  cases h with
  | kept => rfl
  | loaded hcache hload => simp only [request, hcache, hload]

theorem Loads.isSteady (h : p.Loads files q) (hp : p.IsSteady) : q.IsSteady := by
  cases h with
  | kept => exact hp
  | loaded => exact fun hcache => by cases hcache

theorem Loads.alike (h : p.Loads files q) (hp : p.IsSteady) : p.Alike q := by
  cases h with
  | kept => exact .refl p
  | @loaded string hcache hload =>
    refine ⟨rfl, fun files' least => ?_⟩
    have hload' : load files' p.source = .ok string := (hp hcache files' files).trans hload
    simp only [request, hcache, hload']

end Provider

end SpotCheck
