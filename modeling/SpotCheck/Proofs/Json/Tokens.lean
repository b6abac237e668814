import Mathlib.Data.List.Basic
import Mathlib.Data.List.TakeDrop
import Mathlib.Tactic.SplitIfs
import SpotCheck.Json.Parser

/-!
# Reading back written strings and numbers

Blanks before a value are skipped. A string is read back from its quoted text, and a word from its
decimal digits, if what follows could not be part of it.
-/

namespace SpotCheck.Json

/-! ### Blanks -/

theorem skipBlanks_append {blanks cs : List Char} (h : ∀ c ∈ blanks, isBlank c) :
    skipBlanks (blanks ++ cs) = skipBlanks cs := by
  unfold skipBlanks
  induction blanks with
  | nil => rfl
  | cons c blanks ih =>
    rw [List.cons_append, List.dropWhile_cons, if_pos (h c List.mem_cons_self)]
    exact ih fun d hd => h d (List.mem_cons_of_mem c hd)

theorem skipBlanks_cons {c : Char} (h : isBlank c = false) (cs : List Char) :
    skipBlanks (c :: cs) = c :: cs := by
  rw [skipBlanks, List.dropWhile_cons, if_neg (by simp [h])]

theorem value_append {blanks cs : List Char} (h : ∀ c ∈ blanks, isBlank c) (budget : Nat) :
    value budget (blanks ++ cs) = value budget cs := by
  cases budget with
  | zero => rfl
  | succ budget => simp only [value, skipBlanks_append h]

theorem members_append {blanks cs : List Char} (h : ∀ c ∈ blanks, isBlank c) (budget : Nat)
    (done : List (Option String × Json)) :
    members budget done (blanks ++ cs) = members budget done cs := by
  cases budget with
  | zero => rfl
  | succ budget => simp only [members, skipBlanks_append h]

def newlineChars (depth : Nat) : List Char := '\n' :: List.replicate (2 * depth) ' '

theorem toList_newline (depth : Nat) : (newline depth).toList = newlineChars depth := by
  simp [newline, newlineChars]

theorem isBlank_of_mem_newlineChars {depth : Nat} {c : Char} (h : c ∈ newlineChars depth) :
    isBlank c := by
  rcases List.mem_cons.1 h with rfl | h
  · rfl
  · obtain rfl := List.eq_of_mem_replicate h
    rfl

theorem length_newlineChars (depth : Nat) : (newlineChars depth).length = 2 * depth + 1 := by
  simp [newlineChars]

theorem skipBlanks_newlineChars (depth : Nat) {c : Char} (h : isBlank c = false)
    (cs : List Char) : skipBlanks (newlineChars depth ++ (c :: cs)) = c :: cs := by
  rw [skipBlanks_append fun _ => isBlank_of_mem_newlineChars, skipBlanks_cons h]

/-! ### Strings -/

/-- The unit that stands for a character in a quoted text. -/
def unitOf (c : Char) : StringUnit :=
  if c.toNat < 32 ∧ c ≠ '\n' ∧ c ≠ '\r' ∧ c ≠ '\t' ∧ c.toNat ≠ 8 ∧ c.toNat ≠ 12 then .code c.toNat
  else .char c

theorem hexValue?_digitChar : ∀ n < 16, hexValue? (Nat.digitChar n) = some n := by decide

theorem stringUnits_escaped (done : List StringUnit) {c escaped : Char} (hc : c ≠ 'u')
    (h : escaped? c = some escaped) (rest : List Char) :
    stringUnits done ('\x5c' :: c :: rest) = stringUnits (.char escaped :: done) rest := by
  rw [stringUnits, h]
  simp [hc]

theorem stringUnits_code (done : List StringUnit) {n : Nat} (h : n < 32) (rest : List Char) :
    stringUnits done ('\x5c' :: 'u' :: '0' :: '0' :: Nat.digitChar (n / 16) ::
      Nat.digitChar (n % 16) :: rest) = stringUnits (.code n :: done) rest := by
  have hhigh := hexValue?_digitChar (n / 16) (by omega)
  have hlow := hexValue?_digitChar (n % 16) (by omega)
  have hzero : hexValue? '0' = some 0 := by decide
  have hn : ((0 * 16 + 0) * 16 + n / 16) * 16 + n % 16 = n := by omega
  rw [stringUnits]
  simp only [hzero, hhigh, hlow, hn]

theorem stringUnits_char (done : List StringUnit) {c : Char} (hquote : c ≠ '\x22')
    (hslash : c ≠ '\x5c') (h : 32 ≤ c.toNat) (rest : List Char) :
    stringUnits done (c :: rest) = stringUnits (.char c :: done) rest := by
  rw [stringUnits, if_neg hquote, if_neg]
  · simp [hslash]; omega
  · simp [hslash]
  · simp [hslash]

theorem stringUnits_escape (done : List StringUnit) (c : Char) (rest : List Char) :
    stringUnits done ((escape c).toList ++ rest) = stringUnits (unitOf c :: done) rest := by
  unfold escape
  split_ifs with hquote hslash hnewline hreturn htab hback hform hcontrol
  · subst hquote
    exact stringUnits_escaped done (by decide) (by decide) rest
  · subst hslash
    exact stringUnits_escaped done (by decide) (by decide) rest
  · subst hnewline
    exact stringUnits_escaped done (by decide) (by decide) rest
  · subst hreturn
    exact stringUnits_escaped done (by decide) (by decide) rest
  · subst htab
    exact stringUnits_escaped done (by decide) (by decide) rest
  · obtain rfl : c = '\x08' := Char.toNat_inj.1 hback
    exact stringUnits_escaped done (by decide) (by decide) rest
  · obtain rfl : c = '\x0c' := Char.toNat_inj.1 hform
    exact stringUnits_escaped done (by decide) (by decide) rest
  · have hunit : unitOf c = .code c.toNat :=
      if_pos ⟨hcontrol, hnewline, hreturn, htab, hback, hform⟩
    rw [hunit, ← stringUnits_code done hcontrol]
    simp [hexPair]
  · have hunit : unitOf c = .char c := if_neg fun hc => hcontrol hc.1
    rw [hunit, ← stringUnits_char done hquote hslash (Nat.le_of_not_lt hcontrol)]
    simp

theorem assemble_code {n : Nat} (h : n < 32) (done : List Char) (units : List StringUnit) :
    assemble done (.code n :: units) = assemble (Char.ofNat n :: done) units := by
  have hhigh : ¬ (0xd800 ≤ n ∧ n ≤ 0xdbff) := by omega
  have hlow : ¬ (0xdc00 ≤ n ∧ n ≤ 0xdfff) := by omega
  have hneither : ¬ (0xd800 ≤ n ∧ n ≤ 0xdfff) := by omega
  cases units with
  | nil => simp [assemble, hneither]
  | cons u units =>
    cases u with
    | char c => simp [assemble, hneither]
    | code low => rw [assemble, if_neg hhigh, if_neg hlow]

theorem assemble_unitOf (c : Char) (done : List Char) (units : List StringUnit) :
    assemble done (unitOf c :: units) = assemble (c :: done) units := by
  unfold unitOf
  split
  case isTrue h => rw [assemble_code h.1, Char.ofNat_toNat]
  case isFalse => rw [assemble]

theorem assemble_map_unitOf (cs done : List Char) :
    assemble done (cs.map unitOf) = some (String.ofList (done.reverse ++ cs)) := by
  induction cs generalizing done with
  | nil => simp [assemble]
  | cons c cs ih => rw [List.map_cons, assemble_unitOf, ih]; simp

def quoteChars (text : String) : List Char :=
  '\x22' :: (text.toList.flatMap (fun c => (escape c).toList) ++ ['\x22'])

theorem toList_quote (text : String) : (quote text).toList = quoteChars text := by
  have hfold (cs : List Char) (done : String) :
      (cs.foldl (fun done c => done ++ escape c) done).toList =
        done.toList ++ cs.flatMap (fun c => (escape c).toList) := by
    induction cs generalizing done with
    | nil => simp
    | cons c cs ih => rw [List.foldl_cons, ih]; simp
  simp [quote, quoteChars, String.foldl_eq_foldl_toList, hfold]

theorem stringUnits_flatMap (cs rest : List Char) (done : List StringUnit) :
    stringUnits done (cs.flatMap (fun c => (escape c).toList) ++ '\x22' :: rest) =
      some (done.reverse ++ cs.map unitOf, rest) := by
  induction cs generalizing done with
  | nil => simp [stringUnits]
  | cons c cs ih =>
    rw [List.flatMap_cons, List.append_assoc, stringUnits_escape, ih]
    simp

theorem stringBody_quoteChars (text : String) (rest : List Char) :
    stringBody ((quoteChars text).tail ++ rest) = some (some text, rest) := by
  have hunits := stringUnits_flatMap text.toList rest []
  simp only [quoteChars, List.tail_cons, List.append_assoc, List.cons_append, List.nil_append,
    stringBody, hunits]
  simp [assemble_map_unitOf]

/-! ### Numbers -/

/-- What follows a value: nothing, a comma or the end of a line. -/
def Closes (rest : List Char) : Prop :=
  rest = [] ∨ (∃ cs, rest = ',' :: cs) ∨ ∃ cs, rest = '\n' :: cs

theorem closes_comma (cs : List Char) : Closes (',' :: cs) := .inr (.inl ⟨cs, rfl⟩)

theorem closes_newlineChars (depth : Nat) (cs : List Char) : Closes (newlineChars depth ++ cs) :=
  .inr (.inr ⟨_, rfl⟩)

theorem Closes.not_isDigit {rest : List Char} (h : Closes rest) :
    ∀ c ∈ rest.head?, c.isDigit = false := by
  rcases h with rfl | ⟨cs, rfl⟩ | ⟨cs, rfl⟩
  · simp
  · simp
  · simp

theorem Closes.fraction_eq {rest : List Char} (h : Closes rest) :
    fraction rest = some (false, rest) := by
  rcases h with rfl | ⟨cs, rfl⟩ | ⟨cs, rfl⟩ <;> rfl

theorem Closes.exponent_eq {rest : List Char} (h : Closes rest) :
    exponent rest = some (false, rest) := by
  rcases h with rfl | ⟨cs, rfl⟩ | ⟨cs, rfl⟩ <;> rfl

theorem span_append {p : Char → Bool} {run rest : List Char} (hrun : ∀ c ∈ run, p c)
    (hrest : ∀ c ∈ rest.head?, p c = false) : (run ++ rest).span p = (run, rest) := by
  have hdrop : rest.dropWhile p = rest := by
    cases rest with
    | nil => rfl
    | cons c cs => rw [List.dropWhile_cons, if_neg (by simp [hrest c rfl])]
  have htake : rest.takeWhile p = [] := by
    cases rest with
    | nil => rfl
    | cons c cs => rw [List.takeWhile_cons, if_neg (by simp [hrest c rfl])]
  rw [List.span_eq_takeWhile_dropWhile, List.takeWhile_append_of_pos hrun,
    List.dropWhile_append_of_pos hrun, hdrop, htake, List.append_nil]

theorem head?_toDigits {n : Nat} (h : 0 < n) : (Nat.toDigits 10 n).head? ≠ some '0' := by
  induction n using Nat.strongRecOn with
  | ind n ih =>
    by_cases hlt : n < 10
    · rw [Nat.toDigits_of_lt_base hlt]
      have hdigit : ∀ d < 10, 0 < d → [d.digitChar].head? ≠ some '0' := by decide
      exact hdigit n hlt h
    · have hle : 10 ≤ n := by omega
      rw [Nat.toDigits_of_base_le (by decide) hle,
        List.head?_append_of_ne_nil _ Nat.toDigits_ne_nil]
      exact ih (n / 10) (by omega) (by omega)

theorem wholeDigits_toDigits (n : Nat) {rest : List Char} (h : Closes rest) :
    wholeDigits (Nat.toDigits 10 n ++ rest) = some (Nat.toDigits 10 n, rest) := by
  have hspan : (Nat.toDigits 10 n ++ rest).span Char.isDigit = (Nat.toDigits 10 n, rest) :=
    span_append (fun c hc => Nat.isDigit_of_mem_toDigits (by decide) (by decide) hc)
      h.not_isDigit
  have hdigits : digits (Nat.toDigits 10 n ++ rest) = some (Nat.toDigits 10 n, rest) := by
    rw [digits, hspan]
    exact if_neg (by simp)
  have hzero : ¬ ((Nat.toDigits 10 n).head? = some '0' ∧ (Nat.toDigits 10 n).length > 1) := by
    rintro ⟨hhead, hlength⟩
    rcases Nat.eq_zero_or_pos n with rfl | hpos
    · simp at hlength
    · exact head?_toDigits hpos hhead
  rw [wholeDigits, hdigits]
  exact if_neg hzero

theorem decimalWord?_toDigits {n : Nat} (h : n < Word.limit) :
    decimalWord? (Nat.toDigits 10 n) = some n := by
  have hlength : (Nat.toDigits 10 n).length ≤ 20 := by
    rw [Nat.length_toDigits_le_iff (by decide) (by decide)]
    unfold Word.limit at h
    omega
  have hdecimal : decimal (Nat.toDigits 10 n) = n := by
    have h := Nat.ofDigitChars_ten_toDigits (n := n)
    rwa [Nat.ofDigitChars_eq_foldl] at h
  rw [decimalWord?, if_neg (Nat.not_lt.2 hlength), hdecimal, if_pos h]

theorem numberBody_toDigits {n : Nat} (h : n < Word.limit) {rest : List Char}
    (hrest : Closes rest) :
    numberBody false (Nat.toDigits 10 n ++ rest) = some (number (some n), rest) := by
  simp [numberBody, wholeDigits_toDigits n hrest, hrest.fraction_eq, hrest.exponent_eq,
    decimalWord?_toDigits h]

end SpotCheck.Json
