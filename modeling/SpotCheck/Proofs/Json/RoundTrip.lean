import SpotCheck.Proofs.Json.Tokens

/-!
# Reading back written JSON

A value is read back from its text, whatever follows it, as long as nothing follows that could be
part of it. This holds of words and texts, and of arrays and records of values of which it holds.
-/

namespace SpotCheck.Json

/-! ### Values -/

/-- The value is read back from its text, at every depth. -/
structure ReadsBack (v : Json) : Prop where
  starts : ∀ depth, ∃ c cs, (pretty depth v).toList = c :: cs ∧ isBlank c = false ∧ c ≠ ']'
  value : ∀ depth budget rest, Closes rest →
    ((pretty depth v).toList ++ rest).length < budget →
    value budget ((pretty depth v).toList ++ rest) = some (v, rest)

theorem readsBack_null : null.ReadsBack where
  starts depth := ⟨'n', "ull".toList, by simp [pretty], rfl, by decide⟩
  value depth budget rest _ hbudget := by
    obtain ⟨budget, rfl⟩ := Nat.exists_eq_add_of_lt hbudget
    have htext : (pretty depth null).toList = 'n' :: "ull".toList := by simp [pretty]
    have hdrop : ("null".toList ++ rest).drop "null".length = rest := List.drop_left
    rw [htext, List.cons_append, value, skipBlanks_cons rfl]
    simpa [word] using hdrop

theorem toList_pretty_ofNat (depth n : Nat) :
    (pretty depth (ofNat n)).toList = Nat.toDigits 10 n := by
  simp [pretty, ofNat, Nat.toString_eq_repr]

theorem ne_of_isDigit {c : Char} (h : c.isDigit) :
    isBlank c = false ∧ c ≠ ']' ∧ c ≠ 'n' ∧ c ≠ 't' ∧ c ≠ 'f' ∧ c ≠ '\x22' ∧ c ≠ '-' ∧ c ≠ '[' ∧
      c ≠ '\x7b' := by
  refine ⟨?_, ?_, ?_, ?_, ?_, ?_, ?_, ?_, ?_⟩
  · rw [Bool.eq_false_iff]
    intro hblank
    have hcases : c = ' ' ∨ c = '\n' ∨ c = '\t' ∨ c = '\r' := by
      simpa [isBlank, or_assoc] using hblank
    rcases hcases with rfl | rfl | rfl | rfl <;> exact absurd h (by decide)
  all_goals
    rintro rfl
    exact absurd h (by decide)

theorem exists_toDigits (n : Nat) : ∃ c cs, Nat.toDigits 10 n = c :: cs ∧ c.isDigit := by
  obtain ⟨c, cs, hcs⟩ := List.exists_cons_of_ne_nil (Nat.toDigits_ne_nil (b := 10) (n := n))
  have hmem : c ∈ Nat.toDigits 10 n := by
    rw [hcs]
    exact List.mem_cons_self
  exact ⟨c, cs, hcs, Nat.isDigit_of_mem_toDigits (by decide) (by decide) hmem⟩

theorem readsBack_ofNat {n : Nat} (h : n < Word.limit) : (ofNat n).ReadsBack where
  starts depth := by
    obtain ⟨c, cs, hcs, hdigit⟩ := exists_toDigits n
    obtain ⟨hblank, hbracket, -⟩ := ne_of_isDigit hdigit
    exact ⟨c, cs, (toList_pretty_ofNat depth n).trans hcs, hblank, hbracket⟩
  value depth budget rest hrest hbudget := by
    obtain ⟨budget, rfl⟩ := Nat.exists_eq_add_of_lt hbudget
    obtain ⟨c, cs, hcs, hdigit⟩ := exists_toDigits n
    obtain ⟨hblank, -, hn, ht, hf, hquote, hminus, hbracket, hbrace⟩ := ne_of_isDigit hdigit
    have hnumber := numberBody_toDigits h hrest
    rw [hcs, List.cons_append] at hnumber
    rw [toList_pretty_ofNat, hcs, List.cons_append, value, skipBlanks_cons hblank]
    dsimp only
    rw [if_neg hn, if_neg ht, if_neg hf, if_neg hquote, if_neg hminus, if_neg hbracket,
      if_neg hbrace, hnumber]
    rfl

theorem toList_pretty_ofText (depth : Nat) (text : String) :
    (pretty depth (ofText text)).toList = '\x22' :: (quoteChars text).tail := by
  simp only [pretty, ofText, Option.getD_some, toList_quote]
  rfl

theorem readsBack_ofText (text : String) : (ofText text).ReadsBack where
  starts depth := ⟨'\x22', _, toList_pretty_ofText depth text, rfl, by decide⟩
  value depth budget rest _ hbudget := by
    obtain ⟨budget, rfl⟩ := Nat.exists_eq_add_of_lt hbudget
    rw [toList_pretty_ofText, List.cons_append, value, skipBlanks_cons rfl]
    simp [stringBody_quoteChars, ofText]

/-! ### Blocks -/

/-- What stands in a block after a row, up to the end of the block. -/
def blockTail (depth : Nat) (closing : Char) : List (List Char) → List Char
  | [] => newlineChars depth ++ [closing]
  | row :: rows => ',' :: (newlineChars (depth + 1) ++ (row ++ blockTail depth closing rows))

theorem intercalate_rows (depth : Nat) (closing : Char) (row : List Char)
    (rows : List (List Char)) :
    [','].intercalate ((row :: rows).map (newlineChars (depth + 1) ++ ·)) ++
        (newlineChars depth ++ [closing]) =
      newlineChars (depth + 1) ++ (row ++ blockTail depth closing rows) := by
  induction rows generalizing row with
  | nil => simp [blockTail]
  | cons next rows ih =>
    have h := ih next
    rw [List.map_cons] at h
    rw [List.map_cons, List.map_cons, List.intercalate_cons_cons, List.append_assoc,
      List.append_assoc, h]
    simp [blockTail]

theorem toList_block {opening closing : String} {o c : Char} (hopening : opening.toList = [o])
    (hclosing : closing.toList = [c]) (depth : Nat) (text : String) (texts : List String) :
    (block opening closing depth (text :: texts)).toList =
      o :: (newlineChars (depth + 1) ++ (text.toList ++
        blockTail depth c (texts.map String.toList))) := by
  have hmap : (texts.map (newline (depth + 1) ++ ·)).map String.toList =
      (texts.map String.toList).map (newlineChars (depth + 1) ++ ·) := by
    simp [toList_newline, Function.comp_def]
  have hrows := intercalate_rows depth c text.toList (texts.map String.toList)
  rw [block, if_neg (by simp)]
  simp only [String.toList_append, String.toList_intercalate, List.map_cons, hmap, toList_newline,
    hopening, hclosing, List.append_assoc] at hrows ⊢
  exact congrArg (o :: ·) hrows

/-- A reader of rows takes in the row as the entry: with the comma after it, it goes on to the next
row, and at the closing character it ends. -/
structure ReadsRow {α : Type} (read : Nat → List α → List Char → Option (List α × List Char))
    (depth : Nat) (closing : Char) (row : List Char) (entry : α) : Prop where
  next : ∀ budget done rest, (row ++ ',' :: rest).length < budget →
    read (budget + 1) done (newlineChars (depth + 1) ++ (row ++ ',' :: rest)) =
      read budget (entry :: done) rest
  last : ∀ budget done rest, (row ++ (newlineChars depth ++ closing :: rest)).length < budget →
    read (budget + 1) done
        (newlineChars (depth + 1) ++ (row ++ (newlineChars depth ++ closing :: rest))) =
      some ((entry :: done).reverse, rest)

theorem read_blockTail {α β : Type} {read : Nat → List α → List Char → Option (List α × List Char)}
    {depth : Nat} {closing : Char} {row : β → List Char} {entry : β → α} {b : β} {list : List β}
    (h : ∀ a ∈ b :: list, ReadsRow read depth closing (row a) (entry a)) (budget : Nat)
    (done : List α) (rest : List Char)
    (hbudget : (newlineChars (depth + 1) ++ (row b ++
      (blockTail depth closing (list.map row) ++ rest))).length < budget) :
    read budget done (newlineChars (depth + 1) ++ (row b ++
        (blockTail depth closing (list.map row) ++ rest))) =
      some (done.reverse ++ (b :: list).map entry, rest) := by
  obtain ⟨budget, rfl⟩ : ∃ smaller, budget = smaller + 1 := ⟨budget - 1, by omega⟩
  rw [List.length_append, length_newlineChars] at hbudget
  -- Each row costs one of the budget and leaves less to be read.
  induction list generalizing b done budget with
  | nil =>
    have htail : blockTail depth closing ([].map row) ++ rest =
        newlineChars depth ++ closing :: rest := by
      simp [blockTail]
    rw [htail] at hbudget ⊢
    rw [(h b List.mem_cons_self).last budget done rest (by omega)]
    simp
  | cons next list ih =>
    have htail : blockTail depth closing ((next :: list).map row) ++ rest =
        ',' :: (newlineChars (depth + 1) ++ (row next ++
          (blockTail depth closing (list.map row) ++ rest))) := by
      simp [blockTail]
    rw [htail] at hbudget ⊢
    rw [(h b List.mem_cons_self).next budget done _ (by omega)]
    rw [List.length_append, List.length_cons, List.length_append, length_newlineChars] at hbudget
    obtain ⟨budget, rfl⟩ : ∃ smaller, budget = smaller + 1 := ⟨budget - 1, by omega⟩
    rw [ih (b := next) (fun a ha => h a (List.mem_cons_of_mem b ha)) (entry b :: done) budget
      (by omega)]
    simp

/-! ### Arrays -/

theorem prettyItems_eq (depth : Nat) (list : List Json) :
    prettyItems depth list = list.map (pretty depth) := by
  induction list with
  | nil => simp [prettyItems]
  | cons item list ih => simp [prettyItems, ih]

def itemChars (depth : Nat) (item : Json) : List Char := (pretty depth item).toList

theorem toList_pretty_array (depth : Nat) (item : Json) (list : List Json) :
    (pretty depth (array (item :: list))).toList =
      '[' :: (newlineChars (depth + 1) ++ (itemChars (depth + 1) item ++
        blockTail depth ']' (list.map (itemChars (depth + 1))))) := by
  have hrows : (list.map (pretty (depth + 1))).map String.toList =
      list.map (itemChars (depth + 1)) := List.map_map
  have hblock := toList_block (show "[".toList = ['['] from rfl) (show "]".toList = [']'] from rfl)
    depth (pretty (depth + 1) item) (list.map (pretty (depth + 1)))
  rw [hrows] at hblock
  simp only [pretty, prettyItems_eq, List.map_cons]
  exact hblock

theorem readsRow_item {item : Json} (h : item.ReadsBack) (depth : Nat) :
    ReadsRow items depth ']' (itemChars (depth + 1) item) item where
  next budget done rest hbudget := by
    have hvalue := h.value (depth + 1) budget (',' :: rest) (closes_comma rest) hbudget
    rw [items, value_append fun _ => isBlank_of_mem_newlineChars, itemChars, hvalue]
    dsimp only [bind, Option.bind]
    rw [skipBlanks_cons rfl]
    rfl
  last budget done rest hbudget := by
    have hvalue := h.value (depth + 1) budget (newlineChars depth ++ ']' :: rest)
      (closes_newlineChars depth _) hbudget
    rw [items, value_append fun _ => isBlank_of_mem_newlineChars, itemChars, hvalue]
    dsimp only [bind, Option.bind]
    rw [skipBlanks_newlineChars depth rfl]
    rfl

theorem readsBack_array {list : List Json} (h : ∀ v ∈ list, v.ReadsBack) :
    (array list).ReadsBack := by
  cases list with
  | nil =>
    have htext (depth : Nat) : (pretty depth (array [])).toList = ['[', ']'] := by
      simp [pretty, prettyItems, block]
    refine ⟨fun depth => ⟨'[', _, htext depth, rfl, by decide⟩,
      fun depth budget rest _ hbudget => ?_⟩
    obtain ⟨budget, rfl⟩ : ∃ smaller, budget = smaller + 1 := ⟨budget - 1, by omega⟩
    rw [htext, List.cons_append, List.cons_append, value, skipBlanks_cons rfl]
    simp [skipBlanks_cons (show isBlank ']' = false from rfl)]
  | cons item list =>
    have htext (depth : Nat) := toList_pretty_array depth item list
    refine ⟨fun depth => ⟨'[', _, htext depth, rfl, by decide⟩,
      fun depth budget rest _ hbudget => ?_⟩
    obtain ⟨budget, rfl⟩ : ∃ smaller, budget = smaller + 1 := ⟨budget - 1, by omega⟩
    obtain ⟨c, cs, hstart, hblank, hbracket⟩ := (h item List.mem_cons_self).starts (depth + 1)
    have hchars : itemChars (depth + 1) item = c :: cs := hstart
    rw [htext] at hbudget ⊢
    simp only [List.cons_append, List.append_assoc] at hbudget ⊢
    rw [List.length_cons] at hbudget
    have hitems := read_blockTail (fun v hv => readsRow_item (h v hv) depth) budget [] rest
      (by omega)
    have hskip := skipBlanks_newlineChars (depth + 1) hblank
      (cs ++ (blockTail depth ']' (list.map (itemChars (depth + 1))) ++ rest))
    rw [hchars, List.cons_append] at hitems ⊢
    rw [value, skipBlanks_cons rfl]
    simp [hskip, hitems, hbracket]

/-! ### Records -/

def memberChars (depth : Nat) (member : String × Json) : List Char :=
  quoteChars member.1 ++ (':' :: ' ' :: (pretty depth member.2).toList)

theorem prettyMembers_eq (depth : Nat) (list : List (String × Json)) :
    (prettyMembers depth (list.map fun (name, value) => (some name, value))).map String.toList =
      list.map (memberChars depth) := by
  induction list with
  | nil => simp [prettyMembers]
  | cons member list ih =>
    simp only [List.map_cons, prettyMembers, ih]
    simp [memberChars, toList_quote]

theorem toList_pretty_record (depth : Nat) (member : String × Json)
    (list : List (String × Json)) :
    (pretty depth (record (member :: list))).toList =
      '\x7b' :: (newlineChars (depth + 1) ++ (memberChars (depth + 1) member ++
        blockTail depth '\x7d' (list.map (memberChars (depth + 1))))) := by
  have hrows := prettyMembers_eq (depth + 1) (member :: list)
  simp only [List.map_cons, prettyMembers, List.cons.injEq] at hrows
  have hblock := toList_block (show "\x7b".toList = ['\x7b'] from rfl)
    (show "\x7d".toList = ['\x7d'] from rfl) depth
    (quote member.1 ++ ": " ++ pretty (depth + 1) member.2)
    (prettyMembers (depth + 1) (list.map fun (name, value) => (some name, value)))
  simp only [pretty, record, List.map_cons, prettyMembers, Option.getD_some]
  rw [hblock, hrows.2, ← hrows.1]
  rfl

theorem members_memberChars {member : String × Json} (h : member.2.ReadsBack) (depth budget : Nat)
    (done : List (Option String × Json)) {after : List Char} (hafter : Closes after)
    (hbudget : (memberChars (depth + 1) member ++ after).length < budget) :
    members (budget + 1) done
        (newlineChars (depth + 1) ++ (memberChars (depth + 1) member ++ after)) =
      match skipBlanks after with
      | ',' :: rest => members budget ((some member.1, member.2) :: done) rest
      | '\x7d' :: rest => some (((some member.1, member.2) :: done).reverse, rest)
      | _ => none := by
  have hmember : memberChars (depth + 1) member ++ after = '\x22' :: ((quoteChars member.1).tail ++
      (':' :: ([' '] ++ ((pretty (depth + 1) member.2).toList ++ after)))) := by
    simp [memberChars, quoteChars]
  rw [hmember, List.length_cons, List.length_append, List.length_cons, List.length_append]
    at hbudget
  have hvalue := h.value (depth + 1) budget after hafter (by omega)
  have hblank : ∀ c ∈ [' '], isBlank c := List.forall_mem_singleton.2 rfl
  rw [members_append fun _ => isBlank_of_mem_newlineChars, hmember, members, skipBlanks_cons rfl]
  simp only [stringBody_quoteChars, bind, Option.bind_some]
  rw [skipBlanks_cons rfl]
  show (value budget ([' '] ++ ((pretty (depth + 1) member.2).toList ++ after))).bind _ = _
  rw [value_append hblank, hvalue]
  rfl

theorem readsRow_member {member : String × Json} (h : member.2.ReadsBack) (depth : Nat) :
    ReadsRow members depth '\x7d' (memberChars (depth + 1) member) (some member.1, member.2) where
  next budget done rest hbudget := by
    rw [members_memberChars h depth budget done (closes_comma rest) hbudget, skipBlanks_cons rfl]
    rfl
  last budget done rest hbudget := by
    rw [members_memberChars h depth budget done (closes_newlineChars depth _) hbudget,
      skipBlanks_newlineChars depth rfl]
    rfl

theorem readsBack_record {list : List (String × Json)} (h : ∀ m ∈ list, m.2.ReadsBack) :
    (record list).ReadsBack := by
  cases list with
  | nil =>
    have htext (depth : Nat) : (pretty depth (record [])).toList = ['\x7b', '\x7d'] := by
      simp [pretty, record, prettyMembers, block]
    refine ⟨fun depth => ⟨'\x7b', _, htext depth, rfl, by decide⟩,
      fun depth budget rest _ hbudget => ?_⟩
    obtain ⟨budget, rfl⟩ : ∃ smaller, budget = smaller + 1 := ⟨budget - 1, by omega⟩
    rw [htext, List.cons_append, List.cons_append, value, skipBlanks_cons rfl]
    simp [skipBlanks_cons (show isBlank '\x7d' = false from rfl), record]
  | cons member list =>
    have htext (depth : Nat) := toList_pretty_record depth member list
    refine ⟨fun depth => ⟨'\x7b', _, htext depth, rfl, by decide⟩,
      fun depth budget rest _ hbudget => ?_⟩
    obtain ⟨budget, rfl⟩ : ∃ smaller, budget = smaller + 1 := ⟨budget - 1, by omega⟩
    rw [htext] at hbudget ⊢
    simp only [List.cons_append, List.append_assoc] at hbudget ⊢
    rw [List.length_cons] at hbudget
    have hmembers := read_blockTail (fun m hm => readsRow_member (h m hm) depth) budget [] rest
      (by omega)
    obtain ⟨cs, hskip⟩ : ∃ cs, skipBlanks (newlineChars (depth + 1) ++
        (memberChars (depth + 1) member ++
          (blockTail depth '\x7d' (list.map (memberChars (depth + 1))) ++ rest))) =
        '\x22' :: cs :=
      ⟨_, skipBlanks_newlineChars (depth + 1) rfl _⟩
    rw [value, skipBlanks_cons rfl]
    simp [hskip, hmembers, record]

/-! ### Whole texts -/

theorem parse?_render {v : Json} (h : v.ReadsBack) : parse? v.render = some v := by
  have hvalue := h.value 0 ((pretty 0 v).toList.length + 1) [] (.inl rfl) (by simp)
  rw [List.append_nil] at hvalue
  rw [parse?, render, hvalue]
  rfl

end SpotCheck.Json
