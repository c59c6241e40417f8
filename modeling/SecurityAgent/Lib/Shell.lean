import Mathlib.Algebra.BigOperators.Group.List.Basic
import Mathlib.Algebra.GroupWithZero.Nat
import Mathlib.Data.List.Basic

/-!
# How a shell reads one command

Blanks separate words, a backslash or quotes make a special character an ordinary one, and
where a word could begin a `#` makes a comment of the rest of the line. Then the quotes are
removed.

A text is read here only if every shell reads it in the same way, whatever its variables are
and whatever files there are. It is not read if it is not one simple command, if
something in it is expanded (`$`, a backquote, a `~` at the start of a word, a pattern), or if a
quotation is not closed.

So words with blanks between them are read as they are exactly if they are plain: no more can be
read than is there, and every quote, every further blank and every comment makes it less.
-/

namespace Shell

def apostrophe : Char := Char.ofNat 39
def quotationMark : Char := Char.ofNat 34
def backslash : Char := Char.ofNat 92
def backquote : Char := Char.ofNat 96

/-- What separates words. -/
def isBlank (c : Char) : Bool := c = ' ' || c = '\t'

/-- The characters of the operators. -/
def isOperator (c : Char) : Bool :=
  c = '|' || c = '&' || c = ';' || c = '<' || c = '>' || c = '(' || c = ')'

/-- What begins an expansion, in quotation marks too. -/
def isExpansion (c : Char) : Bool := c = '$' || c = backquote

/-- What a backslash quotes between quotation marks. -/
def isEscapable (c : Char) : Bool := isExpansion c || c = quotationMark || c = backslash

/-- The end of a string, which is in no text. -/
def isNul (c : Char) : Bool := c.toNat = 0

/-- A word: its characters, and whether they are quoted. -/
abbrev Word := List (Char × Bool)

inductive Mode where
  | unquoted
  /-- Behind a backslash. -/
  | escaped
  /-- Between apostrophes. -/
  | single
  /-- Between quotation marks, and behind a backslash there. -/
  | double
  | escapedInDouble
  | comment
  deriving DecidableEq

/-- A word that is open, or begins here, with a character more. -/
def push (current : Option Word) (c : Char) (quoted : Bool) : Option Word :=
  some (current.getD [] ++ [(c, quoted)])

/-- A word is open from here on. -/
def opened (current : Option Word) : Option Word := some (current.getD [])

/-- **The words of a text**, the first of which may be open already. -/
def lex : List Char → Mode → Option Word → Option (List Word)
  | [], .unquoted, current => some current.toList
  | [], .comment, current => some current.toList
  | [], .escaped, _ => none
  | [], .single, _ => none
  | [], .double, _ => none
  | [], .escapedInDouble, _ => none
  | c :: rest, .unquoted, current =>
      if isBlank c then (lex rest .unquoted none).map (current.toList ++ ·)
      else if c = '\n' then
        -- the command ends here
        if lex rest .unquoted none = some [] then some current.toList else none
      else if c = backslash then lex rest .escaped current
      else if c = apostrophe then lex rest .single (opened current)
      else if c = quotationMark then lex rest .double (opened current)
      else if isOperator c || isExpansion c || isNul c then none
      else if c = '#' ∧ current = none then lex rest .comment none
      else lex rest .unquoted (push current c false)
  | c :: rest, .escaped, current =>
      -- a line that is continued
      if c = '\n' then lex rest .unquoted current else lex rest .unquoted (push current c true)
  | c :: rest, .single, current =>
      if c = apostrophe then lex rest .unquoted current
      else lex rest .single (push current c true)
  | c :: rest, .double, current =>
      if c = quotationMark then lex rest .unquoted current
      else if c = backslash then lex rest .escapedInDouble current
      else if isExpansion c then none
      else lex rest .double (push current c true)
  | c :: rest, .escapedInDouble, current =>
      if c = '\n' then lex rest .double current
      else if isEscapable c then lex rest .double (push current c true)
      else lex rest .double (push (push current backslash true) c true)
  | c :: rest, .comment, current =>
      if c = '\n' then
        if lex rest .unquoted none = some [] then some current.toList else none
      else lex rest .comment current

/-! ## Words that are expanded -/

/-- A bracket expression begins before this. Its first character may be any, and it ends with a
bracket before the next slash. -/
def opensBracket (behind : Word) : Bool :=
  match (if behind.head? = some ('!', false) then behind.tail else behind) with
  | [] => false
  | first :: rest => first.1 ≠ '/' && (rest.takeWhile (·.1 ≠ '/')).contains (']', false)

/-- A pattern stands for the files that match it. -/
def isPattern : Word → Bool
  | [] => false
  | first :: rest =>
      first = ('*', false) || first = ('?', false) || (first = ('[', false) && opensBracket rest)
        || isPattern rest

/-- The home of a user. -/
def isTilde (word : Word) : Bool := word.head? = some ('~', false)

/-- What a word is without its quotes, if nothing in it is expanded. -/
def field (word : Word) : Option (List Char) :=
  if isTilde word || isPattern word then none else some (word.map Prod.fst)

/-- The first word is a file: it is neither a reserved word, a function, a builtin or an alias nor
an assignment. -/
def namesFile (word : Word) : Bool := word.contains ('/', false) && !word.contains ('=', false)

/-- **The words of a text that every shell reads as one simple command**, `none` if it is anything
else. -/
def simpleCommand (text : List Char) : Option (List (List Char)) :=
  match lex text .unquoted none with
  | none => none
  | some [] => none
  | some (name :: args) => if namesFile name then (name :: args).mapM field else none

/-! ## Plain words -/

/-- A character that stands for itself wherever it is. -/
def isOrdinary (c : Char) : Bool :=
  !(isBlank c || c = '\n' || c = backslash || c = apostrophe || c = quotationMark || isOperator c
    || isExpansion c || isNul c)

/-- A word as it is read without quotes. -/
def bare (word : List Char) : Word := word.map (·, false)

/-- A word that is read as it is. -/
structure IsPlain (word : List Char) : Prop where
  ne_nil : word ≠ []
  ordinary : ∀ c ∈ word, isOrdinary c = true
  noComment : word.head? ≠ some '#'
  noTilde : word.head? ≠ some '~'
  noPattern : isPattern (bare word) = false

instance (word : List Char) : Decidable (IsPlain word) :=
  decidable_of_iff (word ≠ [] ∧ word.all isOrdinary = true ∧ word.head? ≠ some '#'
      ∧ word.head? ≠ some '~' ∧ isPattern (bare word) = false)
    ⟨fun ⟨h₁, h₂, h₃, h₄, h₅⟩ => ⟨h₁, List.all_eq_true.mp h₂, h₃, h₄, h₅⟩,
      fun ⟨h₁, h₂, h₃, h₄, h₅⟩ => ⟨h₁, List.all_eq_true.mpr h₂, h₃, h₄, h₅⟩⟩

/-- An ordinary character is added to the word, or begins one if it is not a `#`. -/
theorem lex_ordinary {c : Char} (hc : isOrdinary c = true) (rest : List Char)
    {current : Option Word} (hcurrent : ¬ (c = '#' ∧ current = none)) :
    lex (c :: rest) .unquoted current = lex rest .unquoted (push current c false) := by
  unfold isOrdinary at hc
  simp only [Bool.not_eq_true', Bool.or_eq_false_iff, decide_eq_false_iff_not] at hc
  obtain ⟨⟨⟨⟨⟨⟨⟨hblank, hline⟩, hbackslash⟩, hapostrophe⟩, hmark⟩, hoperator⟩, hexpansion⟩, hnul⟩ := hc
  rw [lex, if_neg (by rw [hblank]; exact Bool.false_ne_true), if_neg hline, if_neg hbackslash,
    if_neg hapostrophe, if_neg hmark, hoperator, hexpansion, hnul, Bool.or_self, Bool.or_self,
    if_neg Bool.false_ne_true, if_neg hcurrent]

/-- A plain word is read to its end. -/
theorem lex_word (word : List Char) (hword : ∀ c ∈ word, isOrdinary c = true) (rest : List Char)
    (start : Word) :
    lex (word ++ rest) .unquoted (some start)
      = lex rest .unquoted (some (start ++ bare word)) := by
  induction word generalizing start with
  | nil => rw [List.nil_append, bare, List.map_nil, List.append_nil]
  | cons c word ih =>
      have hc := hword c List.mem_cons_self
      have hpush : push (some start) c false = some (start ++ [(c, false)]) := rfl
      rw [List.cons_append, lex_ordinary hc _ fun h => (by cases h.2), hpush,
        ih (fun d hd => hword d (List.mem_cons_of_mem _ hd)), List.append_assoc]
      rfl

theorem IsPlain.lex {word : List Char} (h : IsPlain word) (rest : List Char) :
    Shell.lex (word ++ rest) .unquoted none = Shell.lex rest .unquoted (some (bare word)) := by
  obtain ⟨hne, hordinary, hcomment, -, -⟩ := h
  cases word with
  | nil => exact absurd rfl hne
  | cons c word =>
      have hc := hordinary c List.mem_cons_self
      have hstart : ¬ (c = '#' ∧ (none : Option Word) = none) := fun h =>
        hcomment (congrArg some h.1)
      rw [List.cons_append, lex_ordinary hc _ hstart]
      exact lex_word word (fun d hd => hordinary d (List.mem_cons_of_mem _ hd)) rest _

/-- A blank ends the word. -/
theorem lex_blank (rest : List Char) (current : Option Word) :
    lex (' ' :: rest) .unquoted current
      = (lex rest .unquoted none).map (current.toList ++ ·) := by
  rw [lex, if_pos (by decide)]

/-- **Plain words are read as they are.** -/
theorem lex_intercalate {words : List (List Char)} (h : ∀ word ∈ words, IsPlain word) :
    lex ([' '].intercalate words) .unquoted none = some (words.map bare) := by
  induction words with
  | nil => rfl
  | cons word rest ih =>
      have hword := h word List.mem_cons_self
      have hrest := ih fun other hmem => h other (List.mem_cons_of_mem _ hmem)
      cases rest with
      | nil =>
          rw [List.intercalate_singleton, ← List.append_nil word, hword.lex]
          rw [List.append_nil]
          rfl
      | cons next rest =>
          rw [List.intercalate_cons_cons, List.append_assoc, hword.lex, List.singleton_append,
            lex_blank, hrest]
          rfl

theorem field_bare {word : List Char} (h : IsPlain word) : field (bare word) = some word := by
  have htilde : isTilde (bare word) = false := by
    unfold isTilde bare
    rw [List.head?_map]
    cases hhead : word.head? with
    | none => rfl
    | some c =>
        refine decide_eq_false fun heq => h.noTilde ?_
        rw [hhead, (Prod.mk.inj (Option.some.inj heq)).1]
  unfold field
  rw [htilde, h.noPattern, if_neg (by simp)]
  unfold bare
  rw [List.map_map]
  exact congrArg some (List.map_id word)

/-! ## No more is read than is there -/

/-- The length of some words, with a separator for each. -/
def size (words : List Word) : Nat := (words.map fun word => word.length + 1).sum

/-- What the word that is open, or may begin, comes to with its separator, and with a backslash
that is not written yet. -/
def due (mode : Mode) (current : Option Word) : Nat :=
  (current.getD []).length + 1 + (if mode = .escapedInDouble then 1 else 0)

theorem size_append (words others : List Word) :
    size (words ++ others) = size words + size others := by
  unfold size
  rw [List.map_append, List.sum_append]

theorem due_eq {mode : Mode} (h : mode ≠ .escapedInDouble) (current : Option Word) :
    due mode current = (current.getD []).length + 1 := by
  unfold due
  rw [if_neg h, Nat.add_zero]

theorem due_escapedInDouble (current : Option Word) :
    due .escapedInDouble current = due .double current + 1 := rfl

theorem due_push (mode : Mode) (current : Option Word) (c : Char) (quoted : Bool) :
    due mode (push current c quoted) = due mode current + 1 := by
  unfold due push
  rw [Option.getD_some, List.length_append, List.length_singleton]
  omega

theorem due_opened (mode : Mode) (current : Option Word) :
    due mode (opened current) = due mode current := rfl

/-- A character that is lost leaves as much due as before. -/
theorem due_of_lost {mode : Mode} {current current' : Option Word} (hmode : mode ≠ .escapedInDouble)
    (h : current' = current ∨ current' = opened current) :
    due mode current' = due .unquoted current := by
  rw [due_eq hmode, due_eq (by decide)]
  rcases h with rfl | rfl <;> rfl

theorem size_toList_le (mode : Mode) (current : Option Word) :
    size current.toList ≤ due mode current := by
  cases current with
  | none => exact Nat.zero_le _
  | some word => exact Nat.le_add_right _ _

/-- Behind the end of a line nothing is read. -/
theorem lex_line {rest : List Char} {current : Option Word} {words : List Word}
    (h : (if lex rest .unquoted none = some [] then some current.toList else none) = some words) :
    words = current.toList := by
  split at h
  · exact (Option.some.inj h).symm
  · cases h

/-- **What a character does that is not quoted**: it separates words, ends the command, is lost, or is
taken as it is. -/
theorem lex_unquoted_cases {c : Char} {rest : List Char} {current : Option Word} {words : List Word}
    (h : lex (c :: rest) .unquoted current = some words) :
    (∃ others, lex rest .unquoted none = some others ∧ words = current.toList ++ others)
      ∨ words = current.toList
      ∨ (∃ mode current', mode ≠ .escapedInDouble ∧ (current' = current ∨ current' = opened current)
        ∧ lex rest mode current' = some words)
      ∨ (isOrdinary c = true ∧ ¬ (c = '#' ∧ current = none)
        ∧ lex rest .unquoted (push current c false) = some words) := by
  rw [lex] at h
  split at h
  · obtain ⟨others, hrest, rfl⟩ := Option.map_eq_some_iff.mp h
    exact Or.inl ⟨others, hrest, rfl⟩
  split at h
  · exact Or.inr (Or.inl (lex_line h))
  -- a backslash or a quote is not in the word
  split at h
  · exact Or.inr (Or.inr (Or.inl ⟨.escaped, _, by decide, Or.inl rfl, h⟩))
  split at h
  · exact Or.inr (Or.inr (Or.inl ⟨.single, _, by decide, Or.inr rfl, h⟩))
  split at h
  · exact Or.inr (Or.inr (Or.inl ⟨.double, _, by decide, Or.inr rfl, h⟩))
  split at h
  · cases h
  split at h
  · next hcomment =>
      exact Or.inr (Or.inr (Or.inl ⟨.comment, _, by decide, Or.inl hcomment.2.symm, h⟩))
  · rename_i hblank hline hbackslash hapostrophe hmark hspecial hcomment
    have hordinary : isOrdinary c = true := by
      simp only [Bool.or_eq_true, not_or, Bool.not_eq_true] at hblank hspecial
      simp [isOrdinary, hblank, hline, hbackslash, hapostrophe, hmark, hspecial]
    exact Or.inr (Or.inr (Or.inr ⟨hordinary, hcomment, h⟩))

/-- **What a quoted character does**: it ends a comment, or more by one is due at most. -/
theorem lex_quoted_cases {c : Char} {rest : List Char} {mode : Mode} {current : Option Word}
    {words : List Word} (hmode : mode ≠ .unquoted) (h : lex (c :: rest) mode current = some words) :
    words = current.toList
      ∨ ∃ mode' current', lex rest mode' current' = some words
        ∧ due mode' current' ≤ due mode current + 1 := by
  have heq : ∀ {mode mode' : Mode}, mode ≠ .escapedInDouble → mode' ≠ .escapedInDouble →
      due mode' current = due mode current := by
    intro mode mode' hmode hmode'
    rw [due_eq hmode, due_eq hmode']
  have hsame : ∀ {mode mode' : Mode}, mode ≠ .escapedInDouble → mode' ≠ .escapedInDouble →
      due mode' current ≤ due mode current + 1 := fun hmode hmode' =>
    Nat.le_succ_of_le (Nat.le_of_eq (heq hmode hmode'))
  have hpush : ∀ {mode mode' : Mode}, mode ≠ .escapedInDouble → mode' ≠ .escapedInDouble →
      due mode' (push current c true) ≤ due mode current + 1 := fun hmode hmode' =>
    Nat.le_of_eq ((due_push _ current c true).trans (congrArg (· + 1) (heq hmode hmode')))
  cases mode with
  | unquoted => exact absurd rfl hmode
  | escaped | single =>
      rw [lex] at h
      split at h
      · exact Or.inr ⟨_, _, h, hsame (by decide) (by decide)⟩
      · exact Or.inr ⟨_, _, h, hpush (by decide) (by decide)⟩
  | double =>
      rw [lex] at h
      split at h
      · exact Or.inr ⟨_, _, h, hsame (by decide) (by decide)⟩
      split at h
      · exact Or.inr ⟨_, _, h, Nat.le_of_eq (due_escapedInDouble current)⟩
      split at h
      · cases h
      · exact Or.inr ⟨_, _, h, hpush (by decide) (by decide)⟩
  | escapedInDouble =>
      -- the backslash was due already
      have hdue := due_escapedInDouble current
      rw [lex] at h
      split at h
      · exact Or.inr ⟨_, _, h, by omega⟩
      split at h
      · refine Or.inr ⟨_, _, h, ?_⟩
        rw [due_push]
        omega
      · refine Or.inr ⟨_, _, h, ?_⟩
        rw [due_push, due_push]
        omega
  | comment =>
      rw [lex] at h
      split at h
      · exact Or.inl (lex_line h)
      · exact Or.inr ⟨_, _, h, hsame (by decide) (by decide)⟩

/-- **No more is read than is there**: every character is one of a word at most, or separates
two. -/
theorem size_le (text : List Char) :
    ∀ {mode : Mode} {current : Option Word} {words : List Word},
      lex text mode current = some words → size words ≤ due mode current + text.length := by
  induction text with
  | nil =>
      intro mode current words h
      have hwords : words = current.toList := by
        cases mode with
        | unquoted | comment => exact (Option.some.inj h).symm
        | escaped | single | double | escapedInDouble => cases h
      rw [hwords]
      exact size_toList_le mode current
  | cons c rest ih =>
      intro mode current words h
      have hstart := size_toList_le mode current
      rw [List.length_cons]
      by_cases hmode : mode = .unquoted
      · subst hmode
        rcases lex_unquoted_cases h with ⟨others, hrest, rfl⟩ | rfl
          | ⟨mode, current', hmode, hcurrent, hrest⟩ | ⟨-, -, hrest⟩
        · have hle := ih hrest
          have hnone : due .unquoted none = 1 := rfl
          rw [hnone] at hle
          rw [size_append]
          omega
        · omega
        · have hle := ih hrest
          rw [due_of_lost hmode hcurrent] at hle
          omega
        · have hle := ih hrest
          rw [due_push] at hle
          omega
      · rcases lex_quoted_cases hmode h with rfl | ⟨mode', current', hrest, hdue⟩
        · omega
        · have hle := ih hrest
          omega

/-! ## Where nothing is lost -/

/-- A word of which every character has been taken as it is. -/
structure TakenAsItIs (word : Word) : Prop where
  ne_nil : word ≠ []
  ordinary : ∀ p ∈ word, isOrdinary p.1 = true ∧ p.2 = false
  noComment : word.head? ≠ some ('#', false)

theorem TakenAsItIs.push {current : Option Word} (h : ∀ word ∈ current, TakenAsItIs word) {c : Char}
    (hc : isOrdinary c = true) (hcurrent : ¬ (c = '#' ∧ current = none)) :
    ∀ word ∈ Shell.push current c false, TakenAsItIs word := by
  intro word hword
  cases hword
  cases current with
  | none =>
      refine ⟨List.cons_ne_nil _ _, fun p hp => ?_, fun hhash => ?_⟩
      · rw [List.mem_singleton.mp hp]
        exact ⟨hc, rfl⟩
      · exact hcurrent ⟨(Prod.mk.inj (Option.some.inj hhash)).1, rfl⟩
  | some start =>
      obtain ⟨hne, hordinary, hhash⟩ := h start rfl
      refine ⟨List.append_ne_nil_of_left_ne_nil hne _, fun p hp => ?_, ?_⟩
      · rcases List.mem_append.mp hp with hold | hnew
        · exact hordinary p hold
        · rw [List.mem_singleton.mp hnew]
          exact ⟨hc, rfl⟩
      · rwa [Option.getD_some, List.head?_append_of_ne_nil _ hne]

/-- **If as much is read as is there, every character was taken as it is.** -/
theorem takenAsItIs_of_size (text : List Char) :
    ∀ {current : Option Word} {words : List Word},
      lex text .unquoted current = some words → (∀ word ∈ current, TakenAsItIs word) →
      size words = due .unquoted current + text.length →
      ∀ word ∈ words, TakenAsItIs word := by
  induction text with
  | nil =>
      intro current words h hcurrent _ word hword
      rw [← Option.some.inj h] at hword
      exact hcurrent word (Option.mem_toList.mp hword)
  | cons c rest ih =>
      intro current words h hcurrent hsize
      have hstart := size_toList_le .unquoted current
      rw [List.length_cons] at hsize
      rcases lex_unquoted_cases h with ⟨others, hrest, rfl⟩ | rfl
        | ⟨mode, current', hmode, hopen, hrest⟩ | ⟨hordinary, hcomment, hrest⟩
      · have hle := size_le rest hrest
        have hnone : due .unquoted none = 1 := rfl
        rw [size_append] at hsize
        rw [hnone] at hle
        cases current with
        | none =>
            -- a blank that separates nothing is lost
            have hnil : size (none : Option Word).toList = 0 := rfl
            rw [hnil, hnone] at hsize
            omega
        | some start =>
            intro word hword
            rcases List.mem_append.mp hword with hfirst | hother
            · exact hcurrent word (Option.mem_toList.mp hfirst)
            · refine ih hrest (fun word hword => by cases hword) ?_ word hother
              rw [hnone]
              omega
      · omega
      · -- the character is lost
        have hle := size_le rest hrest
        rw [due_of_lost hmode hopen] at hle
        omega
      · refine ih hrest (TakenAsItIs.push hcurrent hordinary hcomment) ?_
        rw [due_push]
        omega

theorem TakenAsItIs.eq_bare {word : Word} (h : TakenAsItIs word) :
    word = bare (word.map Prod.fst) := by
  unfold bare
  rw [List.map_map]
  exact (List.map_id word).symm.trans (List.map_congr_left fun p hp =>
    Prod.ext rfl (h.ordinary p hp).2)

/-- A word that is taken as it is, and has a field, is plain. -/
theorem TakenAsItIs.isPlain {word : Word} (h : TakenAsItIs word) {read : List Char}
    (hread : field word = some read) : IsPlain read := by
  unfold field at hread
  split at hread
  · cases hread
  next hexpanded =>
    simp only [Bool.or_eq_true, not_or, Bool.not_eq_true] at hexpanded
    have hbare := h.eq_bare
    rw [Option.some.inj hread] at hbare
    have hhead : ∀ {c : Char}, read.head? = some c → word.head? = some (c, false) := by
      intro c hc
      rw [hbare, bare, List.head?_map, hc]
      rfl
    refine ⟨fun hnil => ?_, fun c hc => ?_, fun hhash => ?_, fun htilde => ?_, ?_⟩
    · rw [hnil] at hbare
      exact h.ne_nil hbare
    · rw [← Option.some.inj hread] at hc
      obtain ⟨p, hp, rfl⟩ := List.mem_map.mp hc
      exact (h.ordinary p hp).1
    · exact h.noComment (hhead hhash)
    · rw [isTilde, hhead htilde] at hexpanded
      exact absurd hexpanded.1 (by decide)
    · rw [← hbare]
      exact hexpanded.2

/-! ## What is read of words with blanks between them -/

theorem size_bare (words : List (List Char)) :
    size (words.map bare) = (words.map fun word => word.length + 1).sum := by
  unfold size bare
  rw [List.map_map]
  simp only [Function.comp_def, List.length_map]

theorem length_intercalate {words : List (List Char)} (h : words ≠ []) :
    ([' '].intercalate words).length + 1 = (words.map fun word => word.length + 1).sum := by
  induction words with
  | nil => exact absurd rfl h
  | cons word rest ih =>
      cases rest with
      | nil => simp
      | cons next rest =>
          have hrest := ih (List.cons_ne_nil _ _)
          rw [List.intercalate_cons_cons, List.length_append, List.length_append, List.map_cons,
            List.sum_cons, ← hrest, List.length_singleton]
          omega

theorem length_field {word : Word} {read : List Char} (h : field word = some read) :
    read.length = word.length := by
  unfold field at h
  split at h
  · cases h
  · rw [← Option.some.inj h, List.length_map]

/-- Every field is that of a word, and they have the same lengths. -/
theorem of_mapM_field {words : List Word} :
    ∀ {fields : List (List Char)}, words.mapM field = some fields →
      size words = (fields.map fun read => read.length + 1).sum
        ∧ ∀ read ∈ fields, ∃ word ∈ words, field word = some read := by
  induction words with
  | nil =>
      intro fields h
      cases h
      exact ⟨rfl, fun read hread => absurd hread List.not_mem_nil⟩
  | cons word rest ih =>
      intro fields h
      rw [List.mapM_cons] at h
      cases hfield : field word with
      | none =>
          rw [hfield] at h
          cases h
      | some read =>
          cases hrest : rest.mapM field with
          | none =>
              rw [hfield, hrest] at h
              cases h
          | some others =>
              rw [hfield, hrest] at h
              cases h
              obtain ⟨hsize, hwords⟩ := ih hrest
              have hone : size (word :: rest) = word.length + 1 + size rest := List.sum_cons
              refine ⟨?_, fun other hmem => ?_⟩
              · rw [hone, hsize, List.map_cons, List.sum_cons, length_field hfield]
              · rcases List.mem_cons.mp hmem with rfl | hmem
                · exact ⟨word, List.mem_cons_self, hfield⟩
                · obtain ⟨found, hfound, heq⟩ := hwords other hmem
                  exact ⟨found, List.mem_cons_of_mem _ hfound, heq⟩

theorem mapM_field_bare {words : List (List Char)} (h : ∀ word ∈ words, IsPlain word) :
    (words.map bare).mapM field = some words := by
  induction words with
  | nil => rfl
  | cons word rest ih =>
      rw [List.map_cons, List.mapM_cons, field_bare (h word List.mem_cons_self),
        ih fun other hmem => h other (List.mem_cons_of_mem _ hmem)]
      rfl

/-- The name of a file. -/
def IsFileName (name : List Char) : Prop := '/' ∈ name ∧ '=' ∉ name

theorem namesFile_bare {name : List Char} : namesFile (bare name) = true ↔ IsFileName name := by
  unfold namesFile IsFileName bare
  simp

/--
**Words are read as they are exactly if they are plain.** The text is that of the words with a blank
between any two, and the first is the name of a file.
-/
theorem simpleCommand_intercalate_iff {name : List Char} (hname : IsFileName name)
    (args : List (List Char)) :
    simpleCommand ([' '].intercalate (name :: args)) = some (name :: args)
      ↔ ∀ word ∈ name :: args, IsPlain word := by
  constructor
  · intro h
    unfold simpleCommand at h
    split at h
    · cases h
    · cases h
    next first others hlex =>
      split at h
      swap
      · cases h
      obtain ⟨hsize, hwords⟩ := of_mapM_field h
      rw [← length_intercalate (List.cons_ne_nil name args)] at hsize
      -- as much is read as is there
      have hnone : due .unquoted none = 1 := rfl
      have htaken := takenAsItIs_of_size _ hlex (fun word hword => by cases hword)
        (by rw [hsize, hnone, Nat.add_comm])
      intro word hmem
      obtain ⟨found, hfound, hfield⟩ := hwords word hmem
      exact (htaken found hfound).isPlain hfield
  · intro h
    have hfields := mapM_field_bare h
    have hfirst := namesFile_bare.mpr hname
    unfold simpleCommand
    rw [lex_intercalate h, List.map_cons]
    rw [List.map_cons] at hfields
    dsimp only
    rw [if_pos hfirst, hfields]

end Shell
