import Mathlib.Data.List.DropRight
import SecurityAgent.Iptables.IptablesTexts
import SecurityAgent.Lib.Separated

/-!
# Reading ports back

A text about ports is a list of single ports and ranges with commas between them, with
`!(` before it and `)` behind it where all other ports are meant. A blank behind a port says
nothing.

A range of ports is printed so that it can be read back, but for two. A single port that
is inverted is given no closing parenthesis, and the range of all ports is not printed even where
it is inverted, though a rule with it matches nothing.
-/

namespace SecurityAgent

/-- A port, or a range of ports. -/
inductive PortItem where
  | single (port : Nat)
  | range (low high : Nat)
  deriving DecidableEq, Repr

/-- The lowest and the highest port. -/
def PortItem.bounds : PortItem → Nat × Nat
  | .single port => (port, port)
  | .range low high => (low, high)

/-- The ports that are listed, or all others. -/
structure PortExpression where
  inverted : Bool
  items : List PortItem
  deriving DecidableEq, Repr

/-! ## Parentheses -/

/-- Every parenthesis that is open, or is opened, is closed. -/
def closes : Nat → List Char → Bool
  | depth, [] => depth == 0
  | depth, '(' :: rest => closes (depth + 1) rest
  | 0, ')' :: _ => false
  | depth + 1, ')' :: rest => closes depth rest
  | depth, _ :: rest => closes depth rest

/-- A text with balanced parentheses. -/
def Balanced (text : String) : Prop := closes 0 text.toList = true

theorem closes_append {text : List Char} (hfree : ∀ c ∈ text, c ≠ '(' ∧ c ≠ ')') (depth : Nat)
    (rest : List Char) : closes depth (text ++ rest) = closes depth rest := by
  induction text with
  | nil => rfl
  | cons c text ih =>
      obtain ⟨hopen, hclose⟩ := hfree c List.mem_cons_self
      rw [List.cons_append, closes.eq_def]
      split
      · rename_i h
        cases h
      · rename_i h
        exact absurd (List.cons.inj h).1 hopen
      · rename_i h
        exact absurd (List.cons.inj h).1 hclose
      · rename_i h
        exact absurd (List.cons.inj h).1 hclose
      · rename_i h
        rw [← (List.cons.inj h).2]
        exact ih fun c hc => hfree c (List.mem_cons_of_mem _ hc)

namespace PortExpression

/-! ## Reading -/

/-- A port, whether or not there is a blank behind it. -/
def readPort (text : List Char) : Option Nat := Separated.readDecimal (text.rdropWhile (· = ' '))

/-- What stands between two commas. -/
def readItem (text : List Char) : Option PortItem :=
  match text.splitOn '-' with
  | [port] => (readPort port).map .single
  | [low, high] => (readPort low).bind fun low => (readPort high).map (.range low)
  | _ => none

/-- What stands between the parentheses. -/
def readItems (text : List Char) : Option (List PortItem) :=
  if text = [] then some [] else (text.splitOn ',').mapM readItem

/-- **What a text says of the ports**, `none` if it is not such a text. -/
def read (text : String) : Option PortExpression :=
  if text.toList.take 2 = ['!', '('] then
    if text.toList.getLast? = some ')' then
      (readItems (text.toList.drop 2).dropLast).map (⟨true, ·⟩)
    else none
  else (readItems text.toList).map (⟨false, ·⟩)

/-! ## Printing -/

/-- An item as it is printed. -/
def itemText : PortItem → List Char
  | .single port => Nat.toDigits 10 port
  | .range low high => Nat.toDigits 10 low ++ '-' :: Nat.toDigits 10 high

/-- The items as they are printed. -/
def itemsText (items : List PortItem) : List Char := [','].intercalate (items.map itemText)

/-- An expression as it is printed. -/
def text (e : PortExpression) : List Char :=
  if e.inverted then ['!', '('] ++ itemsText e.items ++ [')'] else itemsText e.items

theorem getLast_toDigits_ne {c : Char} (h : c.isDigit = false) (n : Nat) :
    ∀ hl : Nat.toDigits 10 n ≠ [], (Nat.toDigits 10 n).getLast hl ≠ c := by
  intro hl heq
  exact Separated.free_toDigits h n (heq ▸ List.getLast_mem hl)

theorem readPort_toDigits (n : Nat) : readPort (Nat.toDigits 10 n) = some n := by
  have hlast : (Nat.toDigits 10 n).rdropWhile (· = ' ') = Nat.toDigits 10 n :=
    List.rdropWhile_eq_self_iff.mpr fun hl hblank =>
      getLast_toDigits_ne (by decide) n hl (of_decide_eq_true hblank)
  unfold readPort
  rw [hlast, Separated.readDecimal_toDigits]

/-- The blank is passed over. -/
theorem readPort_blank (n : Nat) : readPort (Nat.toDigits 10 n ++ [' ']) = some n := by
  have hread := readPort_toDigits n
  unfold readPort at hread ⊢
  rwa [List.rdropWhile_concat_pos _ _ _ (by decide)]

theorem splitOn_free {separator : Char} {text : List Char} (h : Separated.Free separator text) :
    text.splitOn separator = [text] := by
  have hfree : ∀ piece ∈ [text], separator ∉ piece := fun piece hpiece =>
    List.mem_singleton.mp hpiece ▸ h
  have hsplit := List.splitOn_intercalate separator hfree (List.cons_ne_nil _ _)
  rwa [List.intercalate_singleton] at hsplit

theorem readItem_itemText (item : PortItem) : readItem (itemText item) = some item := by
  have hdash : ∀ n, Separated.Free '-' (Nat.toDigits 10 n) := fun n =>
    Separated.free_toDigits (by decide) n
  unfold readItem
  cases item with
  | single port =>
      have hsplit : (itemText (.single port)).splitOn '-' = [Nat.toDigits 10 port] :=
        splitOn_free (hdash port)
      rw [hsplit]
      simp only [readPort_toDigits, Option.map_some]
  | range low high =>
      have hsplit : (itemText (.range low high)).splitOn '-'
          = [Nat.toDigits 10 low, Nat.toDigits 10 high] := by
        have htext : itemText (.range low high)
            = ['-'].intercalate [Nat.toDigits 10 low, Nat.toDigits 10 high] := by
          rw [List.intercalate_cons_cons, List.intercalate_singleton, itemText, List.append_assoc]
          rfl
        rw [htext]
        refine List.splitOn_intercalate _ (fun piece hpiece => ?_) (List.cons_ne_nil _ _)
        rcases List.mem_pair.mp hpiece with rfl | rfl
        · exact hdash low
        · exact hdash high
      rw [hsplit]
      simp only [readPort_toDigits, Option.bind_some, Option.map_some]

/-- A single port is read with its blank. -/
theorem readItem_blank (port : Nat) :
    readItem (Nat.toDigits 10 port ++ [' ']) = some (.single port) := by
  have hfree : Separated.Free '-' (Nat.toDigits 10 port ++ [' ']) :=
    List.not_mem_append (Separated.free_toDigits (by decide) port) (by simp)
  unfold readItem
  rw [splitOn_free hfree]
  simp only [readPort_blank, Option.map_some]

/-- There are only digits and dashes in an item. -/
theorem mem_itemText {item : PortItem} {c : Char} (h : c ∈ itemText item) :
    c = '-' ∨ c.isDigit = true := by
  cases item with
  | single port => exact Or.inr (Separated.isDigit_toDigits h)
  | range low high =>
      rcases List.mem_append.mp h with hlow | hrest
      · exact Or.inr (Separated.isDigit_toDigits hlow)
      rcases List.mem_cons.mp hrest with hdash | hhigh
      · exact Or.inl hdash
      · exact Or.inr (Separated.isDigit_toDigits hhigh)

theorem not_mem_itemText {item : PortItem} {c : Char} (hdash : c ≠ '-') (hc : c.isDigit = false) :
    c ∉ itemText item := fun h => by
  rcases mem_itemText h with heq | hdigit
  · exact hdash heq
  · rw [hc] at hdigit
    exact Bool.false_ne_true hdigit

theorem itemText_ne_nil (item : PortItem) : itemText item ≠ [] := by
  cases item with
  | single port => exact Nat.toDigits_ne_nil
  | range low high => exact fun h => Nat.toDigits_ne_nil (List.append_eq_nil_iff.mp h).1

/-- Nothing but digits, dashes and commas is printed for items. -/
theorem not_mem_itemsText {items : List PortItem} {c : Char} (hcomma : c ≠ ',') (hdash : c ≠ '-')
    (hc : c.isDigit = false) : c ∉ itemsText items := fun h => by
  rcases Separated.mem_intercalate h with heq | ⟨piece, hpiece, hmem⟩
  · exact hcomma heq
  · obtain ⟨item, -, rfl⟩ := List.mem_map.mp hpiece
    exact not_mem_itemText hdash hc hmem

theorem itemsText_eq_nil_iff {items : List PortItem} : itemsText items = [] ↔ items = [] := by
  constructor
  · intro h
    cases items with
    | nil => rfl
    | cons item rest =>
        unfold itemsText at h
        cases rest with
        | nil =>
            rw [List.map_singleton, List.intercalate_singleton] at h
            exact absurd h (itemText_ne_nil item)
        | cons next rest =>
            rw [List.map_cons, List.map_cons, List.intercalate_cons_cons] at h
            exact absurd (List.append_eq_nil_iff.mp (List.append_eq_nil_iff.mp h).1).1
              (itemText_ne_nil item)
  · rintro rfl
    rfl

theorem mapM_readItem (items : List PortItem) :
    (items.map itemText).mapM readItem = some items := by
  induction items with
  | nil => rfl
  | cons item rest ih =>
      rw [List.map_cons, List.mapM_cons, readItem_itemText, ih]
      rfl

/-- **The items are read back in their order.** -/
theorem readItems_itemsText (items : List PortItem) : readItems (itemsText items) = some items := by
  unfold readItems
  by_cases hnil : items = []
  · rw [if_pos (itemsText_eq_nil_iff.mpr hnil), hnil]
  · have hfree : ∀ piece ∈ items.map itemText, Separated.Free ',' piece :=
      List.forall_mem_map.mpr fun item _ => not_mem_itemText (by decide) (by decide)
    have hne : items.map itemText ≠ [] := fun h => hnil (List.map_eq_nil_iff.mp h)
    have hsplit : (itemsText items).splitOn ',' = items.map itemText :=
      List.splitOn_intercalate ',' hfree hne
    rw [if_neg fun h => hnil (itemsText_eq_nil_iff.mp h), hsplit, mapM_readItem]

theorem take_two_ne {text : List Char} (h : '!' ∉ text) : text.take 2 ≠ ['!', '('] := fun heq =>
  h (List.mem_of_mem_take (heq ▸ List.mem_cons_self))

/-- **What is printed is read back.** -/
theorem read_of_text {e : PortExpression} {printed : String} (h : printed.toList = e.text) :
    read printed = some e := by
  obtain ⟨inverted, items⟩ := e
  unfold read
  rw [h]
  cases inverted with
  | false =>
      have htext : (⟨false, items⟩ : PortExpression).text = itemsText items := rfl
      rw [htext, if_neg (take_two_ne (not_mem_itemsText (by decide) (by decide) (by decide))),
        readItems_itemsText]
      rfl
  | true =>
      have htext : (⟨true, items⟩ : PortExpression).text
          = '!' :: '(' :: (itemsText items ++ [')']) := rfl
      have hlast : ('!' :: '(' :: (itemsText items ++ [')'])).getLast? = some ')' :=
        List.getLast?_concat (l := '!' :: '(' :: itemsText items)
      have hstart : ('!' :: '(' :: (itemsText items ++ [')'])).take 2 = ['!', '('] := rfl
      have hbody : (('!' :: '(' :: (itemsText items ++ [')'])).drop 2).dropLast = itemsText items :=
        List.dropLast_concat
      rw [htext, if_pos hstart, if_pos hlast, hbody, readItems_itemsText]
      rfl

/-- **And has balanced parentheses.** -/
theorem balanced_of_text {e : PortExpression} {printed : String} (h : printed.toList = e.text) :
    Balanced printed := by
  have hfree : ∀ c ∈ itemsText e.items, c ≠ '(' ∧ c ≠ ')' := fun c hc =>
    ⟨fun heq => not_mem_itemsText (by decide) (by decide) (by decide) (heq ▸ hc),
      fun heq => not_mem_itemsText (by decide) (by decide) (by decide) (heq ▸ hc)⟩
  unfold Balanced
  rw [h, text]
  split
  · have hclose : closes 1 (itemsText e.items ++ [')']) = true := by
      rw [closes_append hfree]
      rfl
    exact hclose
  · rw [← List.append_nil (itemsText e.items), closes_append hfree]
    rfl

end PortExpression

/-! ## A range of ports -/

namespace IptablesUtils

/-- A range of ports as it is read: a range of one port is that port. -/
def rangedItem (lowPort highPort : UInt16) : PortItem :=
  if lowPort = highPort then .single lowPort.toNat else .range lowPort.toNat highPort.toNat

theorem bounds_rangedItem (lowPort highPort : UInt16) :
    (rangedItem lowPort highPort).bounds = (lowPort.toNat, highPort.toNat) := by
  unfold rangedItem
  split
  · next heq => rw [heq, PortItem.bounds]
  · rfl

/-- The range of all ports. -/
def IsFull (lowPort highPort : UInt16) : Prop := lowPort = MIN_PORT ∧ highPort = MAX_PORT

instance (lowPort highPort : UInt16) : Decidable (IsFull lowPort highPort) :=
  inferInstanceAs (Decidable (_ ∧ _))

theorem isFull_iff (lowPort highPort : UInt16) :
    IsFull lowPort highPort ↔ ¬ (lowPort ≠ MIN_PORT ∨ highPort ≠ MAX_PORT) := by
  unfold IsFull
  rw [not_or, not_ne_iff, not_ne_iff]

theorem rangedPortsText_full {lowPort highPort : UInt16} (h : IsFull lowPort highPort)
    (invert : Bool) : rangedPortsText lowPort highPort invert = none :=
  if_neg ((isFull_iff lowPort highPort).mp h)

/-! A single port has a blank behind it, and no parenthesis. -/

theorem not_mem_blank {n : Nat} {c : Char} (hc : c.isDigit = false) (hblank : c ≠ ' ') :
    c ∉ Nat.toDigits 10 n ++ [' '] :=
  List.not_mem_append (Separated.free_toDigits hc n) fun h => hblank (List.mem_singleton.mp h)

theorem closes_blank (n depth : Nat) :
    closes depth (Nat.toDigits 10 n ++ [' ']) = closes depth [] := by
  have hfree : ∀ c ∈ Nat.toDigits 10 n ++ [' '], c ≠ '(' ∧ c ≠ ')' := fun c hc =>
    ⟨fun heq => not_mem_blank (by decide) (by decide) (heq ▸ hc),
      fun heq => not_mem_blank (by decide) (by decide) (heq ▸ hc)⟩
  have hclose := closes_append hfree depth []
  rwa [List.append_nil] at hclose

theorem plain_blank {n : Nat} {text : String} (h : text.toList = Nat.toDigits 10 n ++ [' ']) :
    Balanced text ∧ PortExpression.read text = some ⟨false, [.single n]⟩ := by
  constructor
  · unfold Balanced
    rw [h, closes_blank]
    rfl
  · have hne : Nat.toDigits 10 n ++ [' '] ≠ [] := List.concat_ne_nil _ _
    have hmark : '!' ∉ Nat.toDigits 10 n ++ [' '] := not_mem_blank (by decide) (by decide)
    have hcomma : ',' ∉ Nat.toDigits 10 n ++ [' '] := not_mem_blank (by decide) (by decide)
    unfold PortExpression.read PortExpression.readItems
    rw [h, if_neg (PortExpression.take_two_ne hmark), if_neg hne,
      PortExpression.splitOn_free hcomma, List.mapM_cons, PortExpression.readItem_blank]
    rfl

theorem open_blank {n : Nat} {text : String}
    (h : text.toList = '!' :: '(' :: (Nat.toDigits 10 n ++ [' '])) :
    ¬ Balanced text ∧ PortExpression.read text = none := by
  constructor
  · have hdepth : closes 0 text.toList = closes 1 [] := by
      rw [h]
      exact closes_blank n 1
    unfold Balanced
    rw [hdepth]
    exact Bool.false_ne_true
  · have hstart : text.toList.take 2 = ['!', '('] := by
      rw [h]
      rfl
    have hlast : text.toList.getLast? = some ' ' := by
      rw [h]
      exact List.getLast?_concat (l := '!' :: '(' :: Nat.toDigits 10 n)
    unfold PortExpression.read
    rw [if_pos hstart, hlast]
    exact if_neg (by decide)

/-- A range that is not of all ports is printed, **and is read back unless it is one port
inverted**. -/
theorem rangedPortsText_cases {lowPort highPort : UInt16} (h : ¬ IsFull lowPort highPort)
    (invert : Bool) :
    ∃ text, rangedPortsText lowPort highPort invert = some text
      ∧ (if lowPort = highPort ∧ invert = true then
          ¬ Balanced text ∧ PortExpression.read text = none
        else Balanced text
          ∧ PortExpression.read text = some ⟨invert, [rangedItem lowPort highPort]⟩) := by
  have hsome := Classical.not_not.mp (mt (isFull_iff lowPort highPort).mpr h)
  refine ⟨_, if_pos hsome, ?_⟩
  unfold rangedItem
  by_cases heq : lowPort = highPort
  · rw [if_pos heq, if_pos heq]
    cases invert with
    | false =>
        rw [if_neg fun hboth => Bool.false_ne_true hboth.2]
        refine plain_blank ?_
        rw [if_neg Bool.false_ne_true, String.toList_append, String.toList_append, Separated.toList_toString]
        rfl
    | true =>
        rw [if_pos ⟨heq, rfl⟩]
        refine open_blank (n := lowPort.toNat) ?_
        rw [if_pos rfl, String.toList_append, String.toList_append, Separated.toList_toString]
        rfl
  · rw [if_neg heq, if_neg heq, if_neg fun hboth => heq hboth.1]
    have htext : ((if invert = true then IPTABLES_NEGATE_EXPRESSION_START else IPTABLES_EMPTY)
        ++ toString lowPort.toNat ++ "-" ++ toString highPort.toNat
        ++ (if invert = true then IPTABLES_NEGATE_EXPRESSION_END else IPTABLES_EMPTY)).toList
        = (⟨invert, [.range lowPort.toNat highPort.toNat]⟩ : PortExpression).text := by
      simp only [String.toList_append, Separated.toList_toString, PortExpression.text,
        PortExpression.itemsText, PortExpression.itemText, List.map_cons, List.map_nil,
        List.intercalate_singleton]
      cases invert with
      | false => simp [IPTABLES_EMPTY]
      | true => simp [IPTABLES_NEGATE_EXPRESSION_START, IPTABLES_NEGATE_EXPRESSION_END]
    exact ⟨PortExpression.balanced_of_text htext, PortExpression.read_of_text htext⟩

/-- Every text says which range it is, and no text is left out but for the range of all ports that
is not inverted. -/
def RangeToldApart (lowPort highPort : UInt16) (invert : Bool) (bufferSize : Nat) : Prop :=
  (∃ text, formatRangedPorts lowPort highPort invert bufferSize = .ok text
      ∧ Balanced text
      ∧ (∃ item, PortExpression.read text = some ⟨invert, [item]⟩
        ∧ item.bounds = (lowPort.toNat, highPort.toNat))
      ∧ ∀ (lowPort' highPort' : UInt16) (invert' : Bool) (bufferSize' : Nat),
        formatRangedPorts lowPort' highPort' invert' bufferSize' = .ok text →
          lowPort' = lowPort ∧ highPort' = highPort ∧ invert' = invert)
    ∨ (formatRangedPorts lowPort highPort invert bufferSize = .error .noData
      ∧ IsFull lowPort highPort ∧ invert = false)

/-- What is answered is the text, however large the buffer. -/
theorem rangedPortsText_of_format {lowPort highPort : UInt16} {invert : Bool} {bufferSize : Nat}
    {text : String} (h : formatRangedPorts lowPort highPort invert bufferSize = .ok text) :
    ¬ IsFull lowPort highPort ∧ rangedPortsText lowPort highPort invert = some text := by
  unfold formatRangedPorts at h
  split at h
  · next hsome =>
      have hwritten : text = if lowPort = highPort then
          (if invert then IPTABLES_NEGATE_EXPRESSION_START else IPTABLES_EMPTY)
            ++ toString lowPort.toNat ++ " "
        else
          (if invert then IPTABLES_NEGATE_EXPRESSION_START else IPTABLES_EMPTY)
            ++ toString lowPort.toNat ++ "-" ++ toString highPort.toNat
            ++ (if invert then IPTABLES_NEGATE_EXPRESSION_END else IPTABLES_EMPTY) := by
        dsimp only at h
        split at h
        · next heq => rw [if_pos heq, eq_of_writeText h]
        · next heq => rw [if_neg heq, eq_of_writeText h]
      exact ⟨fun hfull => (isFull_iff _ _).mp hfull hsome, (if_pos hsome).trans
        (congrArg some hwritten.symm)⟩
  · cases h

/-- No other range has a text that is read. -/
theorem range_unique {lowPort highPort lowPort' highPort' : UInt16} {invert invert' : Bool}
    {text : String} (hread : PortExpression.read text = some ⟨invert, [rangedItem lowPort highPort]⟩)
    (h' : ¬ IsFull lowPort' highPort')
    (htext' : rangedPortsText lowPort' highPort' invert' = some text) :
    lowPort' = lowPort ∧ highPort' = highPort ∧ invert' = invert := by
  obtain ⟨other, hother, hdescribes⟩ := rangedPortsText_cases h' invert'
  rw [htext', Option.some.injEq] at hother
  subst hother
  split at hdescribes
  · rw [hread] at hdescribes
    exact absurd hdescribes.2 (Option.some_ne_none _)
  · have heq := Option.some.inj (hdescribes.2.symm.trans hread)
    have hinvert : invert' = invert := congrArg PortExpression.inverted heq
    have hitem := List.singleton_inj.mp (congrArg PortExpression.items heq)
    have hbounds := congrArg PortItem.bounds hitem
    rw [bounds_rangedItem, bounds_rangedItem, Prod.mk.injEq] at hbounds
    exact ⟨UInt16.toNat_inj.mp hbounds.1, UInt16.toNat_inj.mp hbounds.2, hinvert⟩

/--
**When a range of ports can be told from its text**: when it is not inverted, and of the inverted
ones when it is neither of one port nor of all.
-/
theorem rangeToldApart_iff (lowPort highPort : UInt16) (invert : Bool) {bufferSize : Nat}
    (hroom : 14 < bufferSize) :
    RangeToldApart lowPort highPort invert bufferSize
      ↔ (invert = true → lowPort ≠ highPort ∧ ¬ IsFull lowPort highPort) := by
  have hformat := formatRangedPorts_eq lowPort highPort invert hroom
  unfold RangeToldApart
  rw [hformat]
  by_cases hfull : IsFull lowPort highPort
  · rw [rangedPortsText_full hfull]
    constructor
    · rintro (⟨text, htext, -⟩ | ⟨-, -, hplain⟩)
      · cases htext
      · rw [hplain]
        exact fun h => absurd h Bool.false_ne_true
    · intro h
      refine Or.inr ⟨rfl, hfull, ?_⟩
      cases invert with
      | false => rfl
      | true => exact absurd hfull (h rfl).2
  · obtain ⟨text, htext, hdescribes⟩ := rangedPortsText_cases hfull invert
    rw [htext]
    constructor
    · rintro (⟨text', htext', -, ⟨item, hread, -⟩, -⟩ | ⟨-, hall, -⟩) hinvert
      · refine ⟨fun heq => ?_, hfull⟩
        rw [if_pos ⟨heq, hinvert⟩] at hdescribes
        cases htext'
        rw [hdescribes.2] at hread
        cases hread
      · exact absurd hall hfull
    · intro h
      rw [if_neg fun hboth => (h hboth.2).1 hboth.1] at hdescribes
      refine Or.inl ⟨text, rfl, hdescribes.1, ⟨_, hdescribes.2, bounds_rangedItem lowPort highPort⟩, ?_⟩
      intro lowPort' highPort' invert' bufferSize' hformat'
      obtain ⟨hother, htext'⟩ := rangedPortsText_of_format hformat'
      exact range_unique hdescribes.2 hother htext'

/-- All ports from 6 to 10, inverted. -/
theorem rangeToldApart_iff_range : RangeToldApart 6 10 true 50 := by
  have hroom : 14 < 50 := by omega
  exact (rangeToldApart_iff 6 10 true hroom).mpr fun _ => ⟨by decide, by decide⟩

/-- The parenthesis of an inverted port is left open. -/
theorem inverted_port_open :
    formatRangedPorts 80 80 true 50 = .ok "!(80 " ∧ ¬ RangeToldApart 80 80 true 50 := by
  have htext : formatRangedPorts 80 80 true 50 = .ok "!(80 " := by decide
  refine ⟨htext, ?_⟩
  rintro (⟨text, hformat, hbalanced, -⟩ | ⟨hnone, -⟩)
  · rw [htext] at hformat
    cases hformat
    exact absurd hbalanced (by unfold Balanced; decide)
  · rw [htext] at hnone
    cases hnone

end IptablesUtils

end SecurityAgent
