import SpotCheck.Proofs.Files
import SpotCheck.Proofs.ReferenceString.File
import SpotCheck.Proofs.ReferenceString.Provider

/-!
# Providers load once

Requests are made one after another, and the files may change in between. A provider asks its source
anew at each request until the source gives a string; it then hands out that string, to whoever does
not ask for more points than it has, whatever its source would give by now.
-/

namespace SpotCheck

/-- A request as it is made: the files as they stand then, and the number of points asked for. -/
structure Request where
  files : Files
  least : Nat

namespace Provider

open ReferenceString (Error)

def after (p : Provider) (requests : List Request) : Provider :=
  requests.foldl (fun p r => (p.request r.files r.least).2) p

/-- The answers to requests, one after another. -/
def answers (p : Provider) : List Request → List (Outcome Error ReferenceString)
  | [] => []
  | r :: requests =>
    (p.request r.files r.least).1 :: answers (p.request r.files r.least).2 requests

variable {p : Provider} {source : Source} {files : Files} {string : ReferenceString}

theorem answers_append (p : Provider) (requests later : List Request) :
    p.answers (requests ++ later) = p.answers requests ++ (p.after requests).answers later := by
  induction requests generalizing p with
  | nil => rfl
  | cons r requests ih => exact congrArg _ (ih (p.request r.files r.least).2)

theorem after_append (p : Provider) (requests later : List Request) :
    p.after (requests ++ later) = (p.after requests).after later := List.foldl_append ..

/-! ### Before and after loading -/

/-- A string is handed out to those who ask for no more points than it has. -/
def handOut (string : ReferenceString) (least : Nat) : Outcome Error ReferenceString :=
  if least ≤ string.size then .ok string else .error (.refused (.tooSmall least string.size))

theorem ofResult_ensure (string : ReferenceString) (least : Nat) :
    Outcome.ofResult (string.ensure least) = handOut string least := by
  unfold ReferenceString.ensure handOut
  by_cases h : string.size < least
  · rw [if_pos h, if_neg (Nat.not_le.2 h)]
    rfl
  · rw [if_neg h, if_pos (Nat.not_lt.1 h)]
    rfl

theorem handOut_eq_ok_iff {least : Nat} {s : ReferenceString} :
    handOut string least = .ok s ↔ least ≤ string.size ∧ string = s := by
  unfold handOut
  split_ifs with h
  · simp [h]
  · simp [h]

theorem request_of_cached (h : p.cache = some string) (files : Files) (least : Nat) :
    p.request files least = (handOut string least, p) := by
  simp only [request, h, ofResult_ensure]

theorem request_of_loads (h : load files source = .ok string) (least : Nat) :
    (ofSource source).request files least = (handOut string least, ⟨source, some string⟩) := by
  simp only [request, ofSource, h, ofResult_ensure]

theorem request_of_fails (h : ∀ string, load files source ≠ .ok string) (least : Nat) :
    (ofSource source).request files least = (load files source, ofSource source) := by
  unfold request
  rcases hload : load files source with stop | string
  · simp only [ofSource, hload]
  · exact absurd hload (h string)

theorem answers_of_cached (h : p.cache = some string) (requests : List Request) :
    p.answers requests = requests.map (fun r => handOut string r.least) ∧
      p.after requests = p := by
  induction requests with
  | nil => exact ⟨rfl, rfl⟩
  | cons r requests ih =>
    obtain ⟨hanswers, hafter⟩ := ih
    have hrequest := request_of_cached h r.files r.least
    refine ⟨?_, ?_⟩
    · rw [answers, hrequest, hanswers, List.map_cons]
    · rw [after, List.foldl_cons, hrequest]
      exact hafter

theorem answers_of_fails {requests : List Request}
    (h : ∀ r ∈ requests, ∀ string, load r.files source ≠ .ok string) :
    (ofSource source).answers requests = requests.map (fun r => load r.files source) ∧
      (ofSource source).after requests = ofSource source := by
  induction requests with
  | nil => exact ⟨rfl, rfl⟩
  | cons r requests ih =>
    obtain ⟨hfirst, hrest⟩ := List.forall_mem_cons.1 h
    obtain ⟨hanswers, hafter⟩ := ih hrest
    have hrequest := request_of_fails hfirst r.least
    refine ⟨?_, ?_⟩
    · rw [answers, hrequest, hanswers, List.map_cons]
    · rw [after, List.foldl_cons, hrequest]
      exact hafter

/-! ### The first request that loads -/

theorem fails_or_loads (source : Source) (requests : List Request) :
    (∀ r ∈ requests, ∀ string, load r.files source ≠ .ok string) ∨
      ∃ before first later string, requests = before ++ first :: later ∧
        (∀ r ∈ before, ∀ string, load r.files source ≠ .ok string) ∧
        load first.files source = .ok string := by
  induction requests with
  | nil => exact .inl nofun
  | cons r requests ih =>
    rcases hload : load r.files source with stop | string
    · have hfails : ∀ string, load r.files source ≠ .ok string := by simp [hload]
      rcases ih with hrest | ⟨before, first, later, string, rfl, hbefore, hfirst⟩
      · exact .inl (List.forall_mem_cons.2 ⟨hfails, hrest⟩)
      · exact .inr ⟨r :: before, first, later, string, rfl,
          List.forall_mem_cons.2 ⟨hfails, hbefore⟩, hfirst⟩
    · exact .inr ⟨[], r, requests, string, rfl, nofun, hload⟩

theorem answers_of_loads {before : List Request} {first : Request}
    (hbefore : ∀ r ∈ before, ∀ string, load r.files source ≠ .ok string)
    (hfirst : load first.files source = .ok string) (later : List Request) :
    (ofSource source).answers (before ++ first :: later) =
        before.map (fun r => load r.files source) ++
          (first :: later).map (fun r => handOut string r.least) ∧
      (ofSource source).after (before ++ first :: later) = ⟨source, some string⟩ := by
  obtain ⟨hanswers, hafter⟩ := answers_of_fails hbefore
  obtain ⟨hlater, hend⟩ := answers_of_cached (p := ⟨source, some string⟩) rfl later
  have hrequest := request_of_loads hfirst first.least
  refine ⟨?_, ?_⟩
  · rw [answers_append, hanswers, hafter, answers, hrequest, hlater, List.map_cons]
  · rw [after_append, hafter, after, List.foldl_cons, hrequest]
    exact hend

/-! ### Answers with a string -/

theorem answer_ne_ok_of_fails {requests : List Request}
    (h : ∀ r ∈ requests, ∀ string, load r.files source ≠ .ok string) (i : Nat)
    (string : ReferenceString) :
    ((ofSource source).answers requests)[i]? ≠ some (.ok string) := by
  rw [(answers_of_fails h).1, List.getElem?_map]
  intro hanswer
  obtain ⟨r, hr, hload⟩ := Option.map_eq_some_iff.1 hanswer
  exact h r (List.mem_of_getElem? hr) string hload

theorem answer_eq_ok_of_loads {before later : List Request} {first : Request}
    {loaded : ReferenceString} {i : Nat}
    (hbefore : ∀ r ∈ before, ∀ string, load r.files source ≠ .ok string)
    (hfirst : load first.files source = .ok loaded)
    (h : ((ofSource source).answers (before ++ first :: later))[i]? = some (.ok string)) :
    loaded = string ∧
      ∃ r, (before ++ first :: later)[i]? = some r ∧ r.least ≤ string.size := by
  have hfails := answer_ne_ok_of_fails hbefore i string
  rw [(answers_of_fails hbefore).1] at hfails
  rw [(answers_of_loads hbefore hfirst later).1] at h
  -- In front of the first request that loads there are no strings, behind it there is one.
  by_cases hi : i < before.length
  · rw [List.getElem?_append_left (by rwa [List.length_map])] at h
    exact absurd h hfails
  · have hi : before.length ≤ i := Nat.not_lt.1 hi
    rw [List.getElem?_append_right (by rwa [List.length_map]), List.length_map, List.getElem?_map,
      Option.map_eq_some_iff] at h
    obtain ⟨r, hr, hhanded⟩ := h
    obtain ⟨hleast, rfl⟩ := handOut_eq_ok_iff.1 hhanded
    rw [List.getElem?_append_right hi]
    exact ⟨rfl, r, hr, hleast⟩

/-! ### Main theorem -/

/-- What a provider of a source does in every sequence of requests, where `read` is what its source
gives for the files of a request. -/
structure LoadsOnce (source : Source) (read : Files → Outcome Error ReferenceString) : Prop where
  failing : ∀ requests : List Request, (∀ r ∈ requests, ∀ string, read r.files ≠ .ok string) →
    (ofSource source).answers requests = requests.map (fun r => read r.files) ∧
      ((ofSource source).after requests).cache = none
  loading : ∀ (before later : List Request) (first : Request) (string : ReferenceString),
    (∀ r ∈ before, ∀ string, read r.files ≠ .ok string) → read first.files = .ok string →
    (ofSource source).answers (before ++ first :: later) =
        before.map (fun r => read r.files) ++
          (first :: later).map (fun r => handOut string r.least) ∧
      ((ofSource source).after (before ++ first :: later)).cache = some string
  same : ∀ (requests : List Request) (i j : Nat) (s s' : ReferenceString),
    ((ofSource source).answers requests)[i]? = some (.ok s) →
    ((ofSource source).answers requests)[j]? = some (.ok s') → s = s'
  enough : ∀ (requests : List Request) (i : Nat) (s : ReferenceString),
    ((ofSource source).answers requests)[i]? = some (.ok s) →
    ∃ r, requests[i]? = some r ∧ r.least ≤ s.size

theorem loadsOnce_load (source : Source) : LoadsOnce source fun files => load files source where
  failing requests h := by
    obtain ⟨hanswers, hafter⟩ := answers_of_fails h
    exact ⟨hanswers, by rw [hafter, ofSource]⟩
  loading before later first string hbefore hfirst := by
    obtain ⟨hanswers, hafter⟩ := answers_of_loads hbefore hfirst later
    exact ⟨hanswers, by rw [hafter]⟩
  same requests i j s s' hs hs' := by
    rcases fails_or_loads source requests with
      hfails | ⟨before, first, later, loaded, rfl, hbefore, hfirst⟩
    · exact absurd hs (answer_ne_ok_of_fails hfails i s)
    · obtain ⟨rfl, -⟩ := answer_eq_ok_of_loads hbefore hfirst hs
      exact (answer_eq_ok_of_loads hbefore hfirst hs').1
  enough requests i s hs := by
    rcases fails_or_loads source requests with
      hfails | ⟨before, first, later, loaded, rfl, hbefore, hfirst⟩
    · exact absurd hs (answer_ne_ok_of_fails hfails i s)
    · exact (answer_eq_ok_of_loads hbefore hfirst hs).2

/-- A provider of a file reads it anew until it decodes, a provider of a seed generates anew until
that succeeds; both keep to what they got then. -/
theorem requests_keep_first_load :
    (∀ path, LoadsOnce (.file path) fun files =>
      Outcome.ofResult (ReferenceString.ofFile files path)) ∧
    ∀ points seed, LoadsOnce (.seeded points seed) fun _ => ReferenceString.generate points seed :=
  ⟨fun path => loadsOnce_load (.file path), fun points seed => loadsOnce_load (.seeded points seed)⟩

/-- A file of three points that comes late, behind one that is not there and one of a single byte,
and is removed again: the request that loads it asks for five points. -/
theorem requests_keep_first_load_of_late_file :
    let string : ReferenceString := ⟨[⟨1⟩, ⟨3⟩, ⟨9⟩]⟩
    let place (contents : Bytes) : Files := ⟨[(["srs"], .file contents)]⟩
    let before : List Request := [⟨Files.empty, 1⟩, ⟨place [0x5a], 1⟩]
    let first : Request := ⟨place string.toFileBytes, 5⟩
    let later : List Request := [⟨Files.empty, 3⟩, ⟨place [0x5a], 4⟩]
    (file "srs").answers (before ++ first :: later) =
        [Outcome.refuse (.io "srs" .missing), Outcome.refuse (.format (.tooShort 1)),
          Outcome.refuse (.tooSmall 5 3), .ok string, Outcome.refuse (.tooSmall 4 3)] ∧
      ((file "srs").after (before ++ first :: later)).cache = some string ∧
      (seeded 0 [7]).answers before = [Outcome.refuse .empty, Outcome.refuse .empty] := by
  intro string place before first later
  have hplain : Files.IsPlain "srs" := by decide
  have hnone : ReferenceString.ofFile Files.empty "srs" = .error (.io "srs" .missing) := by
    rw [ReferenceString.ofFile, hplain.read_eq_missing rfl]
  have hfile (contents : Bytes) :
      ReferenceString.ofFile (place contents) "srs" = ReferenceString.ofFileBytes contents := by
    rw [ReferenceString.ofFile, hplain.read_eq rfl]
  have hgarbage : ReferenceString.ofFileBytes [0x5a] = .error (.format (.tooShort 1)) := by decide
  have hmade : string.IsMade := .inr (.inl ⟨[⟨1⟩, ⟨3⟩, ⟨9⟩], by decide⟩)
  have hstring : ReferenceString.ofFileBytes string.toFileBytes = .ok string :=
    ReferenceString.ofFileBytes_eq_ok_iff.2 ⟨by decide, hmade.isProgression, rfl⟩
  have hseed : ReferenceString.generate 0 [7] = Outcome.refuse .empty := rfl
  obtain ⟨hfromFile, hfromSeed⟩ := requests_keep_first_load
  obtain ⟨hanswers, hcache⟩ := (hfromFile "srs").loading before later first string
    (by simp [before, hnone, hfile, hgarbage]) (by simp [first, hfile, hstring])
  refine ⟨?_, hcache, ?_⟩
  · rw [file, hanswers]
    simp only [before, first, later, List.map_cons, List.map_nil, hnone, hfile, hgarbage]
    rfl
  · rw [seeded, ((hfromSeed 0 [7]).failing before (by simp [hseed, Outcome.refuse])).1]
    rfl

end Provider

end SpotCheck
