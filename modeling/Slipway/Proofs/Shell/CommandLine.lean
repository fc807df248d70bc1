import Slipway.Command
import Slipway.Proofs.Basic
import Slipway.Shell.Token

/-!
# Command lines read by a shell

About `CommandSpec::fmt` (`keel_core::process`). A shell cuts a command line into words
(`Shell.readWords?`). Each word of a command is read back as it was, whatever characters it has
(`exists_readWord?`), so no two commands have the same line. The one exception is a word that is
shown bare and starts with a number sign: there the shell reads a comment, and no word any more
(`line_readable`).
-/

namespace Slipway.Shell

/-! ## The words of a line -/

/-- The text of a word in which nothing is expanded. -/
def Word.text? : Word → Option (List Char)
  | [] => some []
  | .text _ cs :: w => (Word.text? w).map (cs ++ ·)
  | .parameter _ _ :: _ => none

/-- The text of a token that is a word. -/
def Token.text? : Token → Option String
  | .word w => (Word.text? w).map String.ofList
  | _ => none

/-- The words of a text that consists of words. The fuel is the length of the text. -/
def readTexts? (fuel : Nat) (cs : List Char) : Option (List String) :=
  (Token.readAll? fuel cs).bind fun tokens => tokens.mapM Token.text?

/-- The words of a line. -/
def readWords? (line : String) : Option (List String) :=
  readTexts? (line.length + 1) line.toList

/-- The first token of a text that begins with no comment. -/
theorem readTexts?_token {cs more rest : List Char} {c : Char} {t : Token}
    (hcs : cs.dropWhile Token.isGap = c :: more) (hcomment : c ≠ '#') (hback : c ≠ '\\')
    (ht : Token.readOne? (c :: more) = some (t, rest)) (fuel : Nat) :
    readTexts? (fuel + 1) cs = t.text?.bind fun a => (readTexts? fuel rest).map (a :: ·) := by
  have hall : Token.readAll? (fuel + 1) cs = (Token.readAll? fuel rest).map (t :: ·) := by
    rw [Token.readAll?, hcs]
    split
    · rename_i h
      cases h
    · rename_i h
      cases h
      exact absurd rfl hcomment
    · rename_i h
      cases h
      exact absurd rfl hback
    · simp only [ht]
  unfold readTexts?
  rw [hall]
  cases Token.readAll? fuel rest with
  | none => cases t.text? <;> rfl
  | some tokens =>
    rw [Option.map_some, Option.bind_some, Option.bind_some, List.mapM_cons]
    cases t.text? with
    | none => rfl
    | some a => cases tokens.mapM Token.text? <;> rfl

/-- A comment ends at the end of its line. -/
theorem readTexts?_comment {cs rest : List Char} (hcs : cs.dropWhile Token.isGap = '#' :: rest)
    (fuel : Nat) : readTexts? (fuel + 1) cs = readTexts? fuel (rest.dropWhile (· ≠ '\n')) := by
  unfold readTexts?
  rw [Token.readAll?, hcs]
  rfl

/-- What follows a comment does not begin with a word. -/
theorem readTexts?_dropWhile_ne (fuel : Nat) (cs : List Char) (a : String) (ws : List String) :
    readTexts? fuel (cs.dropWhile (· ≠ '\n')) ≠ some (a :: ws) := by
  intro h
  cases hend : cs.dropWhile (· ≠ '\n') with
  | nil =>
    rw [hend] at h
    cases fuel <;> exact absurd (Option.some.inj h) (List.cons_ne_nil a ws).symm
  | cons c more =>
    have hc := List.head?_dropWhile_not (· ≠ '\n') cs
    rw [hend] at h hc
    obtain rfl : c = '\n' := by simpa using hc
    cases fuel with
    | zero => cases h
    | succ fuel =>
      have hgap : ('\n' :: more).dropWhile Token.isGap = '\n' :: more :=
        List.dropWhile_cons_of_neg (by decide)
      rw [readTexts?_token hgap (by decide) (by decide) rfl] at h
      cases h

end Slipway.Shell

namespace Slipway.Command

open Shell Shell.Token

variable {word cs front more rest : List Char} {fuel : Nat} {c d : Char} {a : String}
variable {ws vs : List String}

/-! ## Characters -/

theorem ne_of_plain (h : isPlainChar c = true) (hd : isPlainChar d = false) : c ≠ d := by
  rintro rfl
  exact absurd (h.symm.trans hd) (by decide)

/-- A character that is shown bare does not end a word. -/
theorem isBreak_of_plain (h : isPlainChar c = true) : isBreak c = false := by
  have hbreaks : [' ', '\t', '\n', ';', '&', '|', '<', '>', '(', ')'].all (!isPlainChar ·) := by
    decide
  refine Bool.eq_false_iff.mpr fun hbreak => ?_
  have hc : c ∈ [' ', '\t', '\n', ';', '&', '|', '<', '>', '(', ')'] := by
    simpa [isBreak, isGap, or_assoc] using hbreak
  have hplain : isPlainChar c = false := by simpa using List.all_eq_true.mp hbreaks c hc
  exact ne_of_plain h hplain rfl

/-- What follows a word on a command line: nothing, or a blank. -/
def AtGap (rest : List Char) : Prop := rest = [] ∨ rest.head? = some ' '

/-! ## One word -/

theorem readWord?_gap (h : AtGap rest) (hfuel : 0 < fuel) (read : Word) :
    readWord? fuel read rest = some (read.reverse, rest) := by
  obtain ⟨fuel, rfl⟩ := Nat.exists_eq_succ_of_ne_zero (Nat.ne_of_gt hfuel)
  rcases h with rfl | h
  · rfl
  · obtain ⟨more, rfl⟩ := List.head?_eq_some_iff.mp h
    exact if_pos (by decide)

/-- A word that is shown bare is read character by character. -/
theorem exists_readWord?_plain (h : word.all isPlainChar = true) (hrest : AtGap rest)
    (hfuel : word.length < fuel) (read : Word) :
    ∃ w, readWord? fuel read (word ++ rest) = some (read.reverse ++ w, rest) ∧
      Word.text? w = some word := by
  induction word generalizing fuel read with
  | nil => exact ⟨[], by rw [List.append_nil]; exact readWord?_gap hrest hfuel read, rfl⟩
  | cons c word ih =>
    rw [List.all_cons, Bool.and_eq_true] at h
    obtain ⟨fuel, rfl⟩ := Nat.exists_eq_succ_of_ne_zero (Nat.ne_zero_of_lt hfuel)
    have hne : ∀ d : Char, isPlainChar d = false → c ≠ d := fun d => ne_of_plain h.1
    obtain ⟨w, hw, htext⟩ := ih h.2 (Nat.lt_of_succ_lt_succ hfuel) (.text false [c] :: read)
    refine ⟨.text false [c] :: w, ?_, by rw [Word.text?, htext]; rfl⟩
    rw [List.cons_append, readWord?.eq_def]
    simp only [isBreak_of_plain h.1, Bool.false_eq_true, if_false, if_neg (hne '\'' rfl),
      if_neg (hne '"' rfl), if_neg (hne '\\' rfl), if_neg (hne '$' rfl),
      if_neg (hne backquote rfl), hw, List.reverse_cons, List.append_assoc, List.singleton_append]

/-- What stands between single quotes is read as it is. -/
theorem readWord?_quote (h : '\'' ∉ front) (fuel : Nat) (read : Word) (cs : List Char) :
    readWord? (fuel + 1) read ('\'' :: (front ++ '\'' :: cs)) =
      readWord? fuel (.text true front :: read) cs := by
  have hdrop : (front ++ '\'' :: cs).drop (front.length + 1) = cs := by
    rw [← List.drop_drop, List.drop_left]
    rfl
  rw [readWord?.eq_def]
  simp only [takeWhile_append_cons h, hdrop]
  rw [if_neg (by decide), if_pos True.intro, if_pos (by simp)]

theorem readWord?_escape (fuel : Nat) (read : Word) (cs : List Char) :
    readWord? (fuel + 1) read ('\\' :: '\'' :: cs) =
      readWord? fuel (.text true ['\''] :: read) cs := by
  rw [readWord?.eq_def]
  rfl

/-- A word between single quotes is read up to the next quote that it has, again and again; `front`
is what the quotes hold already. -/
theorem exists_readWord?_quoted (hfront : '\'' ∉ front) (hrest : AtGap rest)
    (hfuel : (word.flatMap quoteChar).length + 2 ≤ fuel) (read : Word) :
    ∃ w, readWord? fuel read ('\'' :: (front ++ (word.flatMap quoteChar ++ '\'' :: rest))) =
        some (read.reverse ++ w, rest) ∧ Word.text? w = some (front ++ word) := by
  induction word generalizing fuel read front with
  | nil =>
    obtain ⟨fuel, rfl⟩ : ∃ k, fuel = k + 1 := ⟨fuel - 1, by omega⟩
    refine ⟨[.text true front], ?_, rfl⟩
    rw [List.flatMap_nil, List.nil_append, readWord?_quote hfront,
      readWord?_gap hrest (by simp at hfuel; omega), List.reverse_cons]
  | cons c word ih =>
    by_cases hc : c = '\''
    · -- the quotes are closed, a quote is escaped, and the quotes are opened again
      subst hc
      have hchars : ('\'' :: word).flatMap quoteChar =
          '\'' :: '\\' :: '\'' :: '\'' :: word.flatMap quoteChar := rfl
      rw [hchars] at hfuel ⊢
      simp only [List.length_cons] at hfuel
      obtain ⟨fuel, rfl⟩ : ∃ k, fuel = k + 1 + 1 := ⟨fuel - 2, by omega⟩
      have hempty : '\'' ∉ ([] : List Char) := List.not_mem_nil
      have hleft : (word.flatMap quoteChar).length + 2 ≤ fuel := by omega
      obtain ⟨w, hw, htext⟩ := ih hempty hleft (.text true ['\''] :: .text true front :: read)
      refine ⟨.text true front :: .text true ['\''] :: w, ?_, by simp [Word.text?, htext]⟩
      simp only [List.cons_append]
      rw [readWord?_quote hfront, readWord?_escape]
      rw [List.nil_append] at hw
      rw [hw]
      simp
    · have hchars : (c :: word).flatMap quoteChar = c :: word.flatMap quoteChar := by
        simp [quoteChar, hc]
      have hfront' : '\'' ∉ front ++ [c] := by simp [hfront, Ne.symm hc]
      rw [hchars] at hfuel ⊢
      simp only [List.length_cons] at hfuel
      have hleft : (word.flatMap quoteChar).length + 2 ≤ fuel := by omega
      obtain ⟨w, hw, htext⟩ := ih hfront' hleft read
      exact ⟨w, by simpa using hw, by simpa using htext⟩

/-- **A word is read back**, whatever characters it has. -/
theorem exists_readWord? (word : List Char) (hrest : AtGap rest)
    (hfuel : (quoteWord word).length < fuel) :
    ∃ w, readWord? fuel [] (quoteWord word ++ rest) = some (w, rest) ∧
      Word.text? w = some word := by
  unfold quoteWord at hfuel ⊢
  cases hplain : isPlain word with
  | true =>
    simp only [hplain, if_true] at hfuel ⊢
    exact exists_readWord?_plain ((Bool.and_eq_true _ _).mp hplain).2 hrest hfuel []
  | false =>
    simp only [hplain, Bool.false_eq_true, if_false, List.length_append, List.length_cons,
      List.length_nil] at hfuel ⊢
    have hempty : '\'' ∉ ([] : List Char) := List.not_mem_nil
    have hleft : (word.flatMap quoteChar).length + 2 ≤ fuel := by omega
    obtain ⟨w, hw, htext⟩ := exists_readWord?_quoted hempty hrest hleft []
    exact ⟨w, by simpa using hw, htext⟩

/-! ## Where a word starts -/

/-- A word that is shown bare and starts with a number sign. -/
def startsComment (word : List Char) : Bool := isPlain word && word.head? == some '#'

/-- What is typed for a word starts with a quote, or it is the word itself. -/
theorem quoteWord_eq_cons (word : List Char) :
    ∃ c more, quoteWord word = c :: more ∧ (c = '\'' ∨ (c :: more).all isPlainChar = true) ∧
      (c = '#' ↔ startsComment word = true) := by
  unfold quoteWord startsComment
  cases hplain : isPlain word with
  | true =>
    obtain ⟨c, more, rfl⟩ : ∃ c more, word = c :: more :=
      List.exists_cons_of_ne_nil (by rintro rfl; exact absurd hplain (by decide))
    exact ⟨c, more, rfl, .inr ((Bool.and_eq_true _ _).mp hplain).2, by simp⟩
  | false => exact ⟨'\'', _, rfl, .inl rfl, by simp⟩

theorem head_of_all (h : (c :: cs).all isPlainChar = true) : isPlainChar c = true :=
  (Bool.and_eq_true _ _ |>.mp h).1

theorem not_special_of_typed (h : c = '\'' ∨ isPlainChar c = true) :
    isBreak c = false ∧ c ≠ '\\' := by
  rcases h with rfl | h
  · decide
  · exact ⟨isBreak_of_plain h, ne_of_plain h rfl⟩

/-- A character that starts a word starts no operator. -/
theorem readOne?_typed (h : c = '\'' ∨ isPlainChar c = true)
    (hnext : ∀ d ∈ cs.head?, c.isDigit = true → d ≠ '>' ∧ d ≠ '<') :
    readOne? (c :: cs) =
      (readWord? (cs.length + 2) [] (c :: cs)).map fun (w, rest) => (.word w, rest) := by
  have hne : ∀ d : Char, isBreak d = true → c ≠ d := by
    rintro d hd rfl
    rw [(not_special_of_typed h).1] at hd
    exact absurd hd (by decide)
  have hin := hne '<' (by decide)
  have hout := hne '>' (by decide)
  cases cs with
  | nil =>
    rw [readOne?, if_neg hout, if_neg hin]
    · rfl
    all_goals exact hne _ (by decide)
  | cons d cs =>
    have hdigit : ¬ (c.isDigit = true ∧ (d = '>' ∨ d = '<')) := fun hd =>
      not_or_intro (hnext d rfl hd.1).1 (hnext d rfl hd.1).2 hd.2
    rw [readOne?, if_neg (not_or_intro hout hin), if_neg hdigit]
    · rfl
    all_goals first | exact hne _ (by decide) | exact fun hc _ => hne _ (by decide) hc

/-- What follows a character of a word that is shown bare. -/
theorem plain_or_blank_of_head (h : more.all isPlainChar = true) (hrest : AtGap rest)
    (hd : d ∈ (more ++ rest).head?) : isPlainChar d = true ∨ d = ' ' := by
  cases more with
  | nil =>
    rcases hrest with rfl | hblank
    · exact absurd hd (by simp)
    · exact .inr (Option.some.inj (hblank.symm.trans hd)).symm
  | cons e more =>
    obtain rfl : e = d := Option.some.inj hd
    exact .inl (head_of_all h)

/-- A word of a command line is read as a word: no digit that starts it is the descriptor of a
redirection. -/
theorem readOne?_word (word : List Char) (hrest : AtGap rest) :
    ∃ w, readOne? (quoteWord word ++ rest) = some (.word w, rest) ∧ Word.text? w = some word := by
  have hfuel : (quoteWord word).length < (quoteWord word ++ rest).length + 1 := by
    rw [List.length_append]
    omega
  obtain ⟨w, hw, htext⟩ := exists_readWord? word hrest hfuel
  refine ⟨w, ?_, htext⟩
  obtain ⟨c, more, hcons, htyped, -⟩ := quoteWord_eq_cons word
  rw [hcons, List.cons_append] at hw ⊢
  have hnext : ∀ d ∈ (more ++ rest).head?, c.isDigit = true → d ≠ '>' ∧ d ≠ '<' := by
    intro d hd hdigit
    rcases htyped with rfl | hplain
    · exact absurd hdigit (by decide)
    · rcases plain_or_blank_of_head ((Bool.and_eq_true _ _).mp hplain).2 hrest hd with h | rfl
      · exact ⟨ne_of_plain h rfl, ne_of_plain h rfl⟩
      · decide
  rw [readOne?_typed (htyped.imp_right head_of_all) hnext]
  exact congrArg (Option.map _) hw

/-! ## All words -/

/-- A word is the first one that is read, unless it starts a comment. -/
theorem readTexts?_word (h : startsComment word = false) (hrest : AtGap rest)
    (hcs : cs.dropWhile isGap = quoteWord word ++ rest) (fuel : Nat) :
    readTexts? (fuel + 1) cs = (readTexts? fuel rest).map (String.ofList word :: ·) := by
  obtain ⟨w, hw, htext⟩ := readOne?_word word hrest
  obtain ⟨c, more, hcons, htyped, hcomment⟩ := quoteWord_eq_cons word
  rw [hcons, List.cons_append] at hcs hw
  rw [readTexts?_token hcs (fun hc => by rw [hcomment.mp hc] at h; cases h)
    (not_special_of_typed (htyped.imp_right head_of_all)).2 hw,
    Token.text?, htext]
  rfl

/-- After a word that starts a comment, no word is read. -/
theorem readTexts?_ne_of_startsComment (h : startsComment word = true)
    (hcs : cs.dropWhile isGap = quoteWord word ++ rest) (fuel : Nat) :
    readTexts? (fuel + 1) cs ≠ some (a :: ws) := by
  obtain ⟨c, more, hcons, -, hcomment⟩ := quoteWord_eq_cons word
  obtain rfl := hcomment.mpr h
  rw [hcons, List.cons_append] at hcs
  rw [readTexts?_comment hcs]
  exact readTexts?_dropWhile_ne fuel _ a ws

/-- The words that follow the first one, as they are typed. -/
def typedArgs (args : List String) : List Char := args.flatMap fun a => ' ' :: quoteWord a.toList

theorem atGap_typedArgs (args : List String) : AtGap (typedArgs args) := by
  cases args with
  | nil => exact .inl rfl
  | cons a args => exact .inr rfl

theorem isGap_of_isBreak (h : isBreak c = false) : isGap c = false :=
  (Bool.or_eq_false_iff.mp h).1

theorem dropWhile_quoteWord (word rest : List Char) :
    (quoteWord word ++ rest).dropWhile isGap = quoteWord word ++ rest := by
  obtain ⟨c, more, hcons, htyped, -⟩ := quoteWord_eq_cons word
  have hc : isBreak c = false := (not_special_of_typed (htyped.imp_right head_of_all)).1
  rw [hcons, List.cons_append, List.dropWhile_cons_of_neg (by simp [isGap_of_isBreak hc])]

/-- A word is read, and then the words that follow it. -/
theorem readTexts?_eq_some_iff (hcs : cs.dropWhile isGap = quoteWord a.toList ++ typedArgs ws)
    (hargs : readTexts? fuel (typedArgs ws) = some ws ↔
      ∀ w ∈ ws, startsComment w.toList = false) :
    readTexts? (fuel + 1) cs = some (a :: ws) ↔
      ∀ w ∈ a :: ws, startsComment w.toList = false := by
  rw [List.forall_mem_cons, ← hargs]
  cases h : startsComment a.toList with
  | true => simp [readTexts?_ne_of_startsComment h hcs]
  | false => simp [readTexts?_word h (atGap_typedArgs ws) hcs]

theorem readTexts?_typedArgs_iff (hfuel : (typedArgs ws).length < fuel) :
    readTexts? fuel (typedArgs ws) = some ws ↔ ∀ w ∈ ws, startsComment w.toList = false := by
  induction ws generalizing fuel with
  | nil =>
    obtain ⟨fuel, rfl⟩ := Nat.exists_eq_succ_of_ne_zero (Nat.ne_zero_of_lt hfuel)
    simp [typedArgs, readTexts?, readAll?]
  | cons a ws ih =>
    have hcons : typedArgs (a :: ws) = ' ' :: (quoteWord a.toList ++ typedArgs ws) := rfl
    rw [hcons] at hfuel ⊢
    obtain ⟨fuel, rfl⟩ := Nat.exists_eq_succ_of_ne_zero (Nat.ne_zero_of_lt hfuel)
    refine readTexts?_eq_some_iff ?_ (ih ?_)
    · rw [List.dropWhile_cons_of_pos (by decide), dropWhile_quoteWord]
    · simp only [List.length_cons, List.length_append] at hfuel
      omega

/-- A command line is read as the words of the command, if none of them starts a comment. -/
theorem readWords?_line_iff (c : Command) :
    readWords? c.line = some c.words ↔ ∀ w ∈ c.words, startsComment w.toList = false := by
  have hline : c.line.toList = quoteWord c.program.toList ++ typedArgs c.args :=
    String.toList_ofList
  have hread : readWords? c.line = readTexts? (c.line.length + 1) c.line.toList := rfl
  rw [hread, ← String.length_toList, hline]
  refine readTexts?_eq_some_iff (dropWhile_quoteWord _ _) (readTexts?_typedArgs_iff ?_)
  obtain ⟨c', more, hcons, -⟩ := quoteWord_eq_cons c.program.toList
  rw [hcons, List.length_append, List.length_cons]
  omega

/-! ## Lines of different commands -/

/-- A word that is typed ends at the first gap outside of its quotes, so it can be told from what
follows. -/
theorem quoteWord_append_inj {word' rest' : List Char} (hrest : AtGap rest) (hrest' : AtGap rest')
    (h : quoteWord word ++ rest = quoteWord word' ++ rest') : word = word' ∧ rest = rest' := by
  obtain ⟨w, hw, htext⟩ := readOne?_word word hrest
  obtain ⟨w', hw', htext'⟩ := readOne?_word word' hrest'
  rw [h, hw'] at hw
  obtain ⟨hword, rfl⟩ := Prod.mk.inj (Option.some.inj hw)
  obtain rfl := Token.word.inj hword
  exact ⟨Option.some.inj (htext.symm.trans htext'), rfl⟩

theorem typedArgs_inj (h : typedArgs ws = typedArgs vs) : ws = vs := by
  induction ws generalizing vs with
  | nil =>
    cases vs with
    | nil => rfl
    | cons b vs => cases h
  | cons a ws ih =>
    cases vs with
    | nil => cases h
    | cons b vs =>
      obtain ⟨hword, hargs⟩ := quoteWord_append_inj (atGap_typedArgs ws) (atGap_typedArgs vs)
        (List.cons.inj h).2
      rw [String.toList_inj.mp hword, ih hargs]

theorem line_inj {c d : Command} (h : c.line = d.line) : c = d := by
  have hchars : quoteWord c.program.toList ++ typedArgs c.args =
      quoteWord d.program.toList ++ typedArgs d.args := String.ofList_injective h
  obtain ⟨hword, hargs⟩ := quoteWord_append_inj (atGap_typedArgs _) (atGap_typedArgs _) hchars
  obtain ⟨program, args⟩ := c
  obtain ⟨program', args'⟩ := d
  obtain rfl : program = program' := String.toList_inj.mp hword
  obtain rfl : args = args' := typedArgs_inj hargs
  rfl

/-! ## The line of a command -/

/-- **The line of a command tells its words.** A shell reads them back, unless one of them is shown
bare and starts with a number sign, and no other command has the same line. -/
theorem line_readable (c : Command) :
    (readWords? c.line = some c.words ↔ ∀ w ∈ c.words, startsComment w.toList = false) ∧
      ∀ d : Command, d.line = c.line → d = c :=
  ⟨readWords?_line_iff c, fun _ => line_inj⟩

/-- A word that starts with a number sign is shown bare, and a shell drops it. -/
theorem readWords?_line_drops :
    (Command.mk "echo" ["#x"]).line = "echo #x" ∧
      readWords? (Command.mk "echo" ["#x"]).line = some ["echo"] ∧
      readWords? (Command.mk "echo" ["#x"]).line ≠ some (Command.mk "echo" ["#x"]).words := by
  decide +kernel

end Slipway.Command
