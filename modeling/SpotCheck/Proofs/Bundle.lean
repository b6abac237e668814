import SpotCheck.Bundle
import SpotCheck.Proofs.Field.Reduction
import SpotCheck.Proofs.Hex
import SpotCheck.Proofs.Json.RoundTrip
import SpotCheck.Proofs.Steps

/-!
# Written bundles

A bundle is read back from its text, field by field. From one that was made of a key and a proof
these are taken back as they were, and so are public inputs in reduced form.
-/

namespace SpotCheck

namespace Json

/-! ### Records -/

theorem mapM_map_eq_some {α β γ : Type} {f : α → Option β} {k : γ → α} {v : γ → β}
    {list : List γ} (h : ∀ c ∈ list, f (k c) = some (v c)) :
    (list.map k).mapM f = some (list.map v) := by
  rw [mapM_eq_some_iff, List.forall₂_map_left_iff, List.forall₂_map_right_iff, List.forall₂_same]
  exact h

theorem filter_name {members : List (String × Json)} (h : (members.map Prod.fst).Nodup)
    {member : String × Json} (hmem : member ∈ members) :
    members.filter (·.1 = member.1) = [member] := by
  induction members with
  | nil => cases hmem
  | cons first members ih =>
    obtain ⟨hfirst, hrest⟩ := List.nodup_cons.1 h
    rcases List.mem_cons.1 hmem with rfl | hlater
    · have hnone : members.filter (·.1 = member.1) = [] := by
        refine List.filter_eq_nil_iff.2 fun m hm hname => hfirst ?_
        rw [← of_decide_eq_true hname]
        exact List.mem_map_of_mem hm
      rw [List.filter_cons_of_pos (by simp), hnone]
    · have hne : ¬ first.1 = member.1 := by
        intro hname
        rw [hname] at hfirst
        exact hfirst (List.mem_map_of_mem hlater)
      rw [List.filter_cons_of_neg (by simpa using hne), ih hrest hlater]

theorem fields?_members {members : List (String × Json)} (h : (members.map Prod.fst).Nodup) :
    (record members).fields? (members.map Prod.fst) = some (members.map fun m => some m.2) := by
  have hnames : (members.map fun m => (some m.1, m.2)).all (·.1.isSome) := by simp
  refine (if_pos hnames).trans (mapM_map_eq_some fun member hmem => ?_)
  have hfilter := filter_name h hmem
  have hsome : (members.map fun m => (some m.1, m.2)).filter (·.1 = some member.1) =
      [(some member.1, member.2)] := by
    simp [List.filter_map, Function.comp_def, hfilter]
  rw [field?, hsome]

theorem fields?_record {names : List String} {fields : List Json} (h : names.Nodup)
    (hlength : names.length = fields.length) :
    (record (names.zip fields)).fields? names = some (fields.map some) := by
  have hfst : (names.zip fields).map Prod.fst = names :=
    List.map_fst_zip (Nat.le_of_eq hlength)
  have hsnd : (names.zip fields).map Prod.snd = fields :=
    List.map_snd_zip (Nat.le_of_eq hlength.symm)
  have hall : (names.zip fields).map (fun m => some m.2) = fields.map some :=
    List.map_map.symm.trans (congrArg (List.map some) hsnd)
  have hfields := fields?_members (show ((names.zip fields).map Prod.fst).Nodup by rwa [hfst])
  rwa [hfst, hall] at hfields

theorem below?_ofNat {n limit : Nat} (h : n < limit) : below? limit (ofNat n) = some n := if_pos h

theorem word32?_ofNat (word : UInt32) : word32? (ofNat word.toNat) = some word := by
  have hlt : word.toNat < 1 <<< 32 := word.toNat_lt
  rw [word32?, below?_ofNat hlt, Option.map_some, UInt32.ofNat_toNat]

theorem list?_words (words : List UInt32) :
    list? word32? (ProofBundle.words words) = some words := by
  have hwords : (words.map fun word => ofNat word.toNat).mapM word32? = some (words.map id) :=
    mapM_map_eq_some fun word _ => word32?_ofNat word
  rwa [List.map_id] at hwords

theorem readsBack_word (word : UInt32) : (ofNat word.toNat).ReadsBack :=
  readsBack_ofNat (Nat.lt_trans word.toNat_lt (by decide))

theorem readsBack_words (words : List UInt32) : (ProofBundle.words words).ReadsBack := by
  refine readsBack_array fun v hv => ?_
  obtain ⟨word, -, rfl⟩ := List.mem_map.1 hv
  exact readsBack_word word

end Json

theorem Felt.ofWord_raw {a : Felt} (h : a.IsCanonical) : ofWord a.raw = a := by
  apply Felt.toNat_injective
  rw [toNat_ofWord]
  exact Nat.mod_eq_of_lt h

namespace Fibonacci.Config

theorem readsBack_toJson {c : Config} (h : c.logRows < 2 ^ 32) : c.toJson.ReadsBack := by
  refine Json.readsBack_record ?_
  simp only [List.forall_mem_cons]
  refine ⟨Json.readsBack_ofNat (Nat.lt_trans h (by decide)), Json.readsBack_word _,
    Json.readsBack_word _, ?_, by simp⟩
  cases c.claimedOutput with
  | none => exact Json.readsBack_null
  | some claimed => exact Json.readsBack_word claimed

theorem ofJson?_toJson {c : Config} (h : c.logRows < 2 ^ 32) : ofJson? c.toJson = some c := by
  obtain ⟨claimed, hjson, hclaimed⟩ : ∃ claimed, c.toJson = Json.record
      (["log_rows", "first", "second", "claimed_output"].zip
        [Json.ofNat c.logRows, Json.ofNat c.first.toNat, Json.ofNat c.second.toNat, claimed]) ∧
      Json.nullable? Json.word32? claimed = some c.claimedOutput := by
    refine ⟨_, rfl, ?_⟩
    cases c.claimedOutput with
    | none => rfl
    | some claimed => exact congrArg (Option.map some) (Json.word32?_ofNat claimed)
  have hlogRows : Json.below? (1 <<< 32) (Json.ofNat c.logRows) = some c.logRows :=
    Json.below?_ofNat h
  rw [ofJson?, hjson, Json.fields?_record (by decide) rfl]
  simp only [List.map_cons, List.map_nil, Json.orDefault, hlogRows, Json.word32?_ofNat, hclaimed,
    bind, Option.bind_some]

end Fibonacci.Config

namespace ProofBundle

variable {b : ProofBundle}

theorem readsBack_toJson (h : b.config.logRows < 2 ^ 32) : b.toJson.ReadsBack := by
  refine Json.readsBack_record ?_
  simp only [List.forall_mem_cons]
  exact ⟨b.config.readsBack_toJson h, Json.readsBack_words _, Json.readsBack_words _,
    Json.readsBack_ofText _, Json.readsBack_ofText _, by simp⟩

theorem ofJson?_toJson (h : b.config.logRows < 2 ^ 32) : ofJson? b.toJson = some b := by
  have hjson : b.toJson = Json.record
      (["circuit", "initial_state", "final_state", "verification_key", "proof"].zip
        [b.config.toJson, words b.initial, words b.final, Json.ofText b.keyText,
          Json.ofText b.proofText]) := rfl
  rw [ofJson?, hjson, Json.fields?_record (by decide) rfl]
  simp [Json.required, b.config.ofJson?_toJson h, Json.list?_words, Json.text?, Json.ofText]

theorem parse?_render (h : b.config.logRows < 2 ^ 32) : parse? b.render = some b := by
  rw [parse?, render, Json.parse?_render (readsBack_toJson h)]
  exact ofJson?_toJson h

/-! ### What bundles hold -/

variable {config : Fibonacci.Config} {inputs : PublicInputs} {key proof : Bytes}

theorem keyBytes_make : (make config inputs key proof).keyBytes = .ok key := by
  rw [keyBytes, make, Hex.decode_encode]
  rfl

theorem proofBytes_make : (make config inputs key proof).proofBytes = .ok proof := by
  rw [proofBytes, make, Hex.decode_encode]
  rfl

theorem elements_eq_ok_iff {words : List UInt32} {list : List Felt} :
    elements words = .ok list ↔
      (∀ word ∈ words, word.toNat < modulus) ∧ list = words.map Felt.ofWord := by
  rw [elements, mapM_eq_ok_iff]
  simp only [ite_eq_ok_iff]
  induction words generalizing list with
  | nil => simp
  | cons word words ih =>
    rw [List.forall₂_cons_left_iff]
    simp only [ih, List.forall_mem_cons, List.map_cons]
    constructor
    · intro h
      obtain ⟨a, rest, ⟨rfl, hword⟩, ⟨hwords, rfl⟩, rfl⟩ := h
      exact ⟨⟨hword, hwords⟩, rfl⟩
    · intro h
      obtain ⟨⟨hword, hwords⟩, rfl⟩ := h
      exact ⟨_, _, ⟨rfl, hword⟩, ⟨hwords, rfl⟩, rfl⟩

theorem elements_map_raw {list : List Felt} (h : ∀ a ∈ list, a.IsCanonical) :
    elements (list.map Felt.raw) = .ok list := by
  have hback : (list.map Felt.raw).map Felt.ofWord = list := by
    rw [List.map_map]
    refine (List.map_congr_left fun a ha => ?_).trans (List.map_id list)
    exact Felt.ofWord_raw (h a ha)
  rw [elements_eq_ok_iff, hback]
  refine ⟨fun word hword => ?_, rfl⟩
  obtain ⟨a, ha, rfl⟩ := List.mem_map.1 hword
  exact h a ha

theorem publicInputs_make (hinitial : ∀ a ∈ inputs.initial, a.IsCanonical)
    (hfinal : ∀ a ∈ inputs.final, a.IsCanonical) :
    (make config inputs key proof).publicInputs = .ok inputs := by
  rw [publicInputs, make, elements_map_raw hinitial, elements_map_raw hfinal]
  rfl

end ProofBundle

end SpotCheck
