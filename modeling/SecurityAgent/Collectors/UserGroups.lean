import SecurityAgent.Collectors.LocalUsersCollector
import SecurityAgent.Lib.Separated

/-!
# The groups of a user in two texts

Both passes go over the same groups. What is counted is the length of all names and ids, a
delimiter for all groups but one, and a terminator; all of it in 32 bits, so that for no
group at all it is nothing instead of the terminator.

An id has 32 bits without a sign and is printed as an `int`: one from 2³¹ on is printed
as a negative number, or not at all.
-/

namespace SecurityAgent

open Utils

/-! ## The iterator -/

/-- The groups that are still to come. -/
def GroupsIterator.Yields (getgrgid : UInt32 → Option Group) (iterator : GroupsIterator)
    (groups : List Group) : Prop :=
  (iterator.groups.drop iterator.currentGroupIndex).map getgrgid = groups.map some

namespace GroupsIterator

variable {getgrgid : UInt32 → Option Group} {iterator : GroupsIterator}

theorem Yields.nil (h : iterator.Yields getgrgid []) : iterator.hasNext = false := by
  have hdrop := List.map_eq_nil_iff.mp h
  exact decide_eq_false (Nat.not_lt.mpr (List.drop_eq_nil_iff.mp hdrop))

theorem Yields.cons {group : Group} {groups : List Group}
    (h : iterator.Yields getgrgid (group :: groups)) :
    iterator.hasNext = true
      ∧ ∃ iterator', iterator.next getgrgid = some (group, iterator')
        ∧ iterator'.Yields getgrgid groups := by
  unfold Yields at h
  cases hleft : iterator.groups.drop iterator.currentGroupIndex with
  | nil =>
      rw [hleft] at h
      cases h
  | cons gid rest =>
      rw [hleft, List.map_cons, List.map_cons] at h
      obtain ⟨hgroup, hrest⟩ := List.cons.inj h
      have hlt : iterator.currentGroupIndex < iterator.groups.length := by
        by_contra hge
        rw [List.drop_eq_nil_iff.mpr (Nat.not_lt.mp hge)] at hleft
        cases hleft
      have hget := List.drop_eq_getElem_cons hlt
      rw [hleft] at hget
      obtain ⟨hgid, hdrop⟩ := List.cons.inj hget
      refine ⟨decide_eq_true hlt,
        { iterator with currentGroupIndex := iterator.currentGroupIndex + 1 }, ?_, ?_⟩
      · unfold next
        rw [List.getElem?_eq_getElem hlt, ← hgid, Option.bind_some, hgroup]
        rfl
      · unfold Yields
        rw [← hdrop]
        exact hrest

theorem Yields.length_le {groups : List Group} (h : iterator.Yields getgrgid groups) :
    groups.length ≤ iterator.groups.length := by
  have hlength := congrArg List.length h
  rw [List.length_map, List.length_map, List.length_drop] at hlength
  omega

end GroupsIterator

/-! ## A buffer that fills -/

/-- A buffer with a text at its start, and zeros behind it. -/
def filled (size : Nat) (text : List Char) : List Char :=
  text ++ List.replicate (size - text.length) nul

theorem length_filled {size : Nat} {text : List Char} (h : text.length ≤ size) :
    (filled size text).length = size := by
  unfold filled
  rw [List.length_append, List.length_replicate]
  omega

/-- What is written behind the text becomes part of it, if there is room for it. -/
theorem memcpyAt_filled {size : Nat} {text bytes : List Char} (h : text.length ≤ size) :
    memcpyAt (filled size text) text.length bytes
      = if text.length + bytes.length ≤ size then some (filled size (text ++ bytes)) else none := by
  unfold memcpyAt
  rw [length_filled h]
  split
  · next hroom =>
      unfold filled
      rw [List.take_left', List.drop_append, List.drop_eq_nil_of_le (Nat.le_add_right _ _),
        List.nil_append, Nat.add_sub_cancel_left, List.drop_replicate, List.length_append,
        Nat.sub_add_eq]
      rfl
  · rfl

/-- The text is what is read, if there is a zero left. -/
theorem cStringIn_filled {size : Nat} {text : List Char} (hnul : nul ∉ text)
    (h : text.length ≤ size) :
    cStringIn (filled size text)
      = if text.length < size then some (String.ofList text) else none := by
  have hstop : (List.replicate (size - text.length) nul).takeWhile (· ≠ nul) = [] := by simp
  unfold cStringIn filled
  rw [cString_append hnul, hstop, List.append_nil]
  simp only [List.mem_append, List.mem_replicate]
  by_cases hlt : text.length < size
  · rw [if_pos hlt, if_pos (Or.inr ⟨by omega, trivial⟩)]
  · rw [if_neg hlt, if_neg]
    rintro (hmem | ⟨hne, -⟩)
    · exact hnul hmem
    · exact hne (by omega)

namespace LocalUsersCollector

/-- A value, cut to the length that is computed for it. -/
def cut (value : String) : List Char := value.toList.take (value.length % 2 ^ 32)

theorem ofNat_length_cut (value : String) :
    UInt32.ofNat (cut value).length = UInt32.ofNat value.length := by
  have hle : value.length % 2 ^ 32 ≤ value.length := Nat.mod_le _ _
  unfold cut
  rw [List.length_take, String.length_toList, Nat.min_eq_left hle]
  exact UInt32.toNat_inj.mp (by rw [UInt32.toNat_ofNat', UInt32.toNat_ofNat', Nat.mod_mod])

/-- A combined text in a buffer of some size. -/
def combined (size : Nat) (text : List Char) : Combined :=
  ⟨filled size text, UInt32.ofNat text.length⟩

/-- Behind the text there is room for its terminator, if its size can be computed. -/
theorem currentPosition_combined (size : Nat) {text : String} (h : text.length + 1 < 2 ^ 32) :
    (combined size text.toList).currentPosition.toNat + 1
      = (UInt32.ofNat (text.length + 1)).toNat := by
  have hlength : text.length < 2 ^ 32 := by omega
  unfold combined
  rw [String.length_toList, UInt32.toNat_ofNat_of_lt' hlength, UInt32.toNat_ofNat_of_lt' h]

/-- Bytes are added to a combined text. -/
theorem memcpyAt_combined {size : Nat} (hsize : size < 2 ^ 32) {text : List Char}
    (h : text.length ≤ size) (bytes : List Char) :
    memcpyAt (combined size text).buffer (combined size text).currentPosition.toNat bytes
      = if text.length + bytes.length ≤ size then some (filled size (text ++ bytes)) else none := by
  have hposition : (UInt32.ofNat text.length).toNat = text.length :=
    UInt32.toNat_ofNat_of_lt' (Nat.lt_of_le_of_lt h hsize)
  unfold combined
  rw [hposition]
  exact memcpyAt_filled h

/-- What is added for a value. -/
def appended (isFirst : Bool) (value : String) : List Char :=
  (if isFirst then [] else [';']) ++ cut value

theorem appendValueName_first {size : Nat} (hsize : size < 2 ^ 32) {text : List Char}
    (h : text.length ≤ size) (value : String) :
    appendValueName (combined size text) true value 1
      = if text.length + (cut value).length ≤ size then some (combined size (text ++ cut value))
        else none := by
  have hcut : (UInt32.ofNat value.length).toNat = value.length % 2 ^ 32 := UInt32.toNat_ofNat'
  have hmemcpy := memcpyAt_combined hsize h (cut value)
  unfold appendValueName
  simp only [if_true, Option.bind_eq_bind, Option.bind_some, hcut]
  rw [← cut, hmemcpy]
  split
  · rw [Option.bind_some, combined, combined, List.length_append, UInt32.ofNat_add,
      ofNat_length_cut]
    rfl
  · rfl

/-- **A value is added with its delimiter, if there is room for both.** -/
theorem appendValueName_combined {size : Nat} (hsize : size < 2 ^ 32) {text : List Char}
    (h : text.length ≤ size) (isFirst : Bool) (value : String) :
    appendValueName (combined size text) isFirst value 1
      = if text.length + (appended isFirst value).length ≤ size then
          some (combined size (text ++ appended isFirst value))
        else none := by
  unfold appended
  cases isFirst with
  | true =>
      rw [if_pos rfl, List.nil_append]
      exact appendValueName_first hsize h value
  | false =>
      have hdelimiter := memcpyAt_combined hsize h [';']
      have hone : LOCAL_USERS_PAYLOAD_DELIMITER.toList.take (1 : UInt32).toNat = [';'] := by decide
      have hassoc : text ++ ([';'] ++ cut value) = text ++ [';'] ++ cut value :=
        (List.append_assoc _ _ _).symm
      have hlength : (text ++ [';']).length = text.length + 1 := List.length_append
      rw [if_neg Bool.false_ne_true, hassoc, List.length_append, List.length_singleton]
      by_cases hroom : text.length + 1 ≤ size
      · -- behind the delimiter it is as for the first value
        have hroom' : (text ++ [';']).length ≤ size := by omega
        have hfirst := appendValueName_first hsize hroom' value
        rw [hlength, Nat.add_assoc] at hfirst
        rw [← hfirst]
        unfold appendValueName
        rw [hone, hdelimiter, List.length_singleton, if_pos hroom]
        simp only [if_true, Bool.false_eq_true, if_false, Option.map_some, Option.bind_eq_bind,
          Option.bind_some, combined, hlength, UInt32.ofNat_add]
        rfl
      · have hno : ¬ text.length + (1 + (cut value).length) ≤ size := by omega
        unfold appendValueName
        rw [hone, hdelimiter, List.length_singleton, if_neg hroom, if_neg hno]
        rfl

/-! ## The two passes -/

variable {getgrgid : UInt32 → Option Group}

/-- An id as an `int` is printed. -/
def signedText (group : Group) : String := toString group.grGid.toInt32.toInt

/-- There is room for it. -/
def Printable (group : Group) : Prop := (signedText group).length + 1 ≤ MAX_ID_AS_STRING_LENGTH

theorem idAsString_eq_some {group : Group} (h : Printable group) :
    idAsString group = some (signedText group) :=
  if_neg (Nat.not_lt.mpr h)

theorem idAsString_eq_none {group : Group} (h : ¬ Printable group) : idAsString group = none :=
  if_pos (Nat.lt_of_not_le h)

/-- The lengths of some texts, all together. -/
def total (texts : List String) : Nat := (texts.map String.length).sum

/-- **The first pass counts all names and ids**, and fails if an id has no room. -/
theorem calculateSizes_eq {groups : List Group} :
    ∀ {rounds : Nat} {iterator : GroupsIterator} {namesSize idsSize : UInt32},
      iterator.Yields getgrgid groups → groups.length ≤ rounds →
      ((∀ group ∈ groups, Printable group) →
        calculateSizes getgrgid rounds iterator namesSize idsSize
          = some (namesSize + UInt32.ofNat (total (groups.map Group.grName)),
            idsSize + UInt32.ofNat (total (groups.map signedText))))
      ∧ ((∃ group ∈ groups, ¬ Printable group) →
        calculateSizes getgrgid rounds iterator namesSize idsSize = none) := by
  induction groups with
  | nil =>
      intro rounds iterator namesSize idsSize hyields _
      refine ⟨fun _ => ?_, fun ⟨group, hmem, _⟩ => absurd hmem List.not_mem_nil⟩
      have hsame : ∀ n : UInt32, n + UInt32.ofNat (total []) = n := fun n => UInt32.add_zero n
      rw [List.map_nil, List.map_nil, hsame, hsame]
      cases rounds with
      | zero => rfl
      | succ rounds =>
          unfold calculateSizes
          rw [hyields.nil, if_neg Bool.false_ne_true]
  | cons group rest ih =>
      intro rounds iterator namesSize idsSize hyields hrounds
      obtain ⟨hhas, iterator', hnext, hyields'⟩ := hyields.cons
      cases rounds with
      | zero => exact absurd hrounds (Nat.not_succ_le_zero _)
      | succ rounds =>
          have hrest := Nat.le_of_succ_le_succ hrounds
          have htotal : ∀ (f : Group → String) (n : UInt32),
              n + UInt32.ofNat (total ((group :: rest).map f))
                = n + UInt32.ofNat (f group).length + UInt32.ofNat (total (rest.map f)) := by
            intro f n
            unfold total
            rw [List.map_cons, List.map_cons, List.sum_cons, UInt32.ofNat_add, UInt32.add_assoc]
          unfold calculateSizes
          rw [hhas, if_pos rfl, hnext]
          dsimp only
          by_cases hprintable : Printable group
          · rw [idAsString_eq_some hprintable]
            dsimp only
            obtain ⟨hall, hsome⟩ := @ih rounds iterator'
              (namesSize + UInt32.ofNat group.grName.length)
              (idsSize + UInt32.ofNat (signedText group).length) hyields' hrest
            refine ⟨fun h => ?_, fun ⟨other, hmem, hnot⟩ => ?_⟩
            · rw [htotal, htotal]
              exact hall fun other hmem => h other (List.mem_cons_of_mem _ hmem)
            · rcases List.mem_cons.mp hmem with rfl | hmem
              · exact absurd hprintable hnot
              · exact hsome ⟨other, hmem, hnot⟩
          · rw [idAsString_eq_none hprintable]
            exact ⟨fun h => absurd (h group List.mem_cons_self) hprintable, fun _ => rfl⟩

/-- All that is added for some values. -/
def appendedAll : Bool → List String → List Char
  | _, [] => []
  | isFirst, value :: rest => appended isFirst value ++ appendedAll false rest

/-- **The second pass writes all names and ids, if there is room for all of them.** -/
theorem generateTexts_eq {namesSize idsSize : Nat} (hnamesSize : namesSize < 2 ^ 32)
    (hidsSize : idsSize < 2 ^ 32) {groups : List Group} :
    ∀ {rounds : Nat} {iterator : GroupsIterator} {isFirst : Bool} {names ids : List Char},
      iterator.Yields getgrgid groups → groups.length ≤ rounds →
      (∀ group ∈ groups, Printable group) → names.length ≤ namesSize → ids.length ≤ idsSize →
      generateTexts getgrgid 1 rounds iterator isFirst (combined namesSize names)
          (combined idsSize ids)
        = if names.length + (appendedAll isFirst (groups.map Group.grName)).length ≤ namesSize
              ∧ ids.length + (appendedAll isFirst (groups.map signedText)).length ≤ idsSize then
            some (true, combined namesSize (names ++ appendedAll isFirst (groups.map Group.grName)),
              combined idsSize (ids ++ appendedAll isFirst (groups.map signedText)))
          else none := by
  induction groups with
  | nil =>
      intro rounds iterator isFirst names ids hyields _ _ hnames hids
      have hnothing : appendedAll isFirst ([].map Group.grName) = []
          ∧ appendedAll isFirst ([].map signedText) = [] := ⟨rfl, rfl⟩
      rw [hnothing.1, hnothing.2, List.append_nil, List.append_nil, if_pos ⟨hnames, hids⟩]
      cases rounds with
      | zero => rfl
      | succ rounds =>
          unfold generateTexts
          rw [hyields.nil, if_neg Bool.false_ne_true]
  | cons group rest ih =>
      intro rounds iterator isFirst names ids hyields hrounds hprintable hnames hids
      obtain ⟨hhas, iterator', hnext, hyields'⟩ := hyields.cons
      cases rounds with
      | zero => exact absurd hrounds (Nat.not_succ_le_zero _)
      | succ rounds =>
          have hnamesAll : appendedAll isFirst ((group :: rest).map Group.grName)
              = appended isFirst group.grName ++ appendedAll false (rest.map Group.grName) := rfl
          have hidsAll : appendedAll isFirst ((group :: rest).map signedText)
              = appended isFirst (signedText group) ++ appendedAll false (rest.map signedText) := rfl
          unfold generateTexts
          rw [hhas, if_pos rfl, hnext, hnamesAll, hidsAll]
          dsimp only
          rw [appendValueName_combined hnamesSize hnames,
            idAsString_eq_some (hprintable group List.mem_cons_self)]
          simp only [List.length_append]
          by_cases hname : names.length + (appended isFirst group.grName).length ≤ namesSize
          swap
          · rw [if_neg hname, if_neg fun h => hname (by omega)]
            rfl
          rw [if_pos hname, Option.bind_some, appendValueName_combined hidsSize hids]
          by_cases hid : ids.length + (appended isFirst (signedText group)).length ≤ idsSize
          swap
          · rw [if_neg hid, if_neg fun h => hid (by omega)]
            rfl
          rw [if_pos hid, Option.bind_some,
            ih hyields' (Nat.le_of_succ_le_succ hrounds)
              (fun other hmem => hprintable other (List.mem_cons_of_mem _ hmem))
              (by rw [List.length_append]; exact hname) (by rw [List.length_append]; exact hid)]
          simp only [List.length_append, List.append_assoc, Nat.add_assoc]

/-! ## The texts -/

/-- Texts with a delimiter between them. -/
def joined (texts : List String) : String := LOCAL_USERS_PAYLOAD_DELIMITER.intercalate texts

theorem toList_joined (texts : List String) :
    (joined texts).toList = [';'].intercalate (texts.map String.toList) :=
  String.toList_intercalate

theorem appendedAll_false (texts : List String) :
    appendedAll false texts = texts.flatMap fun text => ';' :: cut text := by
  induction texts with
  | nil => rfl
  | cons text rest ih =>
      rw [appendedAll, ih, List.flatMap_cons]
      rfl

theorem appendedAll_true (texts : List String) :
    appendedAll true texts = [';'].intercalate (texts.map cut) := by
  cases texts with
  | nil => rfl
  | cons text rest =>
      rw [appendedAll, appendedAll_false, List.map_cons, Separated.intercalate_cons,
        List.flatMap_map]
      rfl

/-- A text of a length that 32 bits hold is not cut. -/
theorem cut_eq {text : String} (h : text.length < 2 ^ 32) : cut text = text.toList := by
  unfold cut
  rw [Nat.mod_eq_of_lt h, List.take_of_length_le (Nat.le_of_eq String.length_toList)]

theorem length_le_joined {texts : List String} {text : String} (h : text ∈ texts) :
    text.length ≤ (joined texts).length := by
  rw [← String.length_toList, ← String.length_toList, toList_joined]
  induction texts with
  | nil => exact absurd h List.not_mem_nil
  | cons first rest ih =>
      rw [List.map_cons, Separated.intercalate_cons, List.length_append]
      rcases List.mem_cons.mp h with rfl | hmem
      · exact Nat.le_add_right _ _
      · have hrest := ih hmem
        cases rest with
        | nil => exact absurd hmem List.not_mem_nil
        | cons next rest =>
            rw [List.map_cons, Separated.intercalate_cons, List.length_append] at hrest
            rw [List.map_cons, List.flatMap_cons, List.length_append, List.length_cons]
            omega

theorem appendedAll_eq_joined {texts : List String} (h : (joined texts).length < 2 ^ 32) :
    appendedAll true texts = (joined texts).toList := by
  have hcut : texts.map cut = texts.map String.toList :=
    List.map_congr_left fun text hmem => cut_eq (Nat.lt_of_le_of_lt (length_le_joined hmem) h)
  rw [appendedAll_true, hcut, toList_joined]

/-- What two passes count: a delimiter less than there are texts, and a terminator. -/
theorem length_joined {texts : List String} (h : texts ≠ []) :
    (joined texts).length + 1 = total texts + texts.length := by
  rw [← String.length_toList, toList_joined]
  unfold total
  induction texts with
  | nil => exact absurd rfl h
  | cons first rest ih =>
      rw [List.map_cons, Separated.intercalate_cons, List.length_append, String.length_toList,
        List.map_cons, List.sum_cons, List.length_cons]
      cases rest with
      | nil => simp
      | cons next rest =>
          have hrest := ih (List.cons_ne_nil _ _)
          rw [List.map_cons, Separated.intercalate_cons, List.length_append] at hrest
          rw [List.map_cons, List.flatMap_cons, List.length_append, List.length_cons]
          omega

theorem not_mem_appendedAll {c : Char} (hc : c ≠ ';') {texts : List String}
    (h : ∀ text ∈ texts, c ∉ text.toList) : c ∉ appendedAll true texts := by
  intro hmem
  rw [appendedAll_true] at hmem
  rcases Separated.mem_intercalate hmem with heq | ⟨piece, hpiece, hcpiece⟩
  · exact hc heq
  · obtain ⟨text, htext, rfl⟩ := List.mem_map.mp hpiece
    exact h text htext (List.mem_of_mem_take hcpiece)

/-! ## Ids -/

/-- The id as the number it is. -/
def unsignedText (group : Group) : String := toString group.grGid.toNat

/-- **An id below 2³¹ is printed as it is**, -/
theorem signedText_of_lt {group : Group} (h : group.grGid.toNat < 2 ^ 31) :
    signedText group = unsignedText group := by
  unfold signedText unsignedText
  rw [toInt_toInt32 h]
  rfl

theorem printable_of_lt {group : Group} (h : group.grGid.toNat < 2 ^ 31) : Printable group := by
  have hlength : (unsignedText group).length ≤ 10 := length_toString_le (by omega) (by omega)
  unfold Printable MAX_ID_AS_STRING_LENGTH
  rw [signedText_of_lt h]
  omega

/-- and one from there on with a sign. -/
theorem sign_mem_signedText {group : Group} (h : 2 ^ 31 ≤ group.grGid.toNat) :
    '-' ∈ (signedText group).toList := by
  have hlt := group.grGid.toNat_lt
  have hnegative : group.grGid.toInt32.toInt < 0 := by
    have hcond := BitVec.toInt_eq_toNat_cond group.grGid.toBitVec
    have htoNat : group.grGid.toBitVec.toNat = group.grGid.toNat := rfl
    rw [if_neg (by omega), htoNat] at hcond
    have hsame : group.grGid.toInt32.toInt = group.grGid.toBitVec.toInt := rfl
    omega
  unfold signedText
  rw [Int.toString_eq_repr, Int.repr_eq_if, if_neg (Int.not_le.mpr hnegative), String.toList_append]
  exact List.mem_append_left _ (by decide)

theorem nul_not_mem_signedText (group : Group) : nul ∉ (signedText group).toList := by
  have hdigits : ∀ n : Nat, nul ∉ n.repr.toList := fun n => not_mem_toString (by decide) n
  unfold signedText
  rw [Int.toString_eq_repr, Int.repr_eq_if]
  split
  · exact hdigits _
  · rw [String.toList_append]
    exact List.not_mem_append (by decide) (hdigits _)

theorem sign_not_mem_unsigned (groups : List Group) :
    '-' ∉ (joined (groups.map unsignedText)).toList := by
  intro h
  rw [toList_joined, List.map_map] at h
  rcases Separated.mem_intercalate h with heq | ⟨piece, hpiece, hmem⟩
  · exact absurd heq (by decide)
  · obtain ⟨group, -, rfl⟩ := List.mem_map.mp hpiece
    exact not_mem_toString (by decide) _ hmem

/-! ## All together -/

/-- The groups of a user are added as two texts, each of which fills its buffer but for the
terminator. -/
def GroupsAdded (getgrgid : UInt32 → Option Group) (iterator : GroupsIterator)
    (groups : List Group) (parentObj : JsonObjectWriter) : Prop :=
  ∃ combinedGroupNamesSize combinedGroupIdsSize combinedGroupNames combinedGroupIds,
    calculateSizeOfGroups getgrgid iterator = some (combinedGroupNamesSize, combinedGroupIdsSize)
    ∧ generateGroupNamesAndIds getgrgid iterator.reset (Combined.zeroed combinedGroupNamesSize)
        (Combined.zeroed combinedGroupIdsSize) = some (true, combinedGroupNames, combinedGroupIds)
    ∧ combinedGroupNames.currentPosition.toNat + 1 = combinedGroupNamesSize.toNat
    ∧ combinedGroupIds.currentPosition.toNat + 1 = combinedGroupIdsSize.toNat
    ∧ addGroupsForUser getgrgid
        { groupsIterator := some iterator
          mallocNames := true
          mallocIds := true
          writeNames := true
          writeIds := true } parentObj
      = some (true, (parentObj.writeString LOCAL_USERS_GROUP_NAMES_KEY
          (joined (groups.map Group.grName))).writeString LOCAL_USERS_GROUP_IDS_KEY
          (joined (groups.map unsignedText)))

variable {iterator : GroupsIterator} {groups : List Group}

/-- What the second pass writes to buffers of any size. -/
theorem generateGroupNamesAndIds_eq (hstart : iterator.currentGroupIndex = 0)
    (hyields : iterator.Yields getgrgid groups) (hprintable : ∀ group ∈ groups, Printable group)
    (namesSize idsSize : UInt32) :
    generateGroupNamesAndIds getgrgid iterator.reset (Combined.zeroed namesSize)
        (Combined.zeroed idsSize)
      = if (appendedAll true (groups.map Group.grName)).length ≤ namesSize.toNat
            ∧ (appendedAll true (groups.map signedText)).length ≤ idsSize.toNat then
          some (true, combined namesSize.toNat (appendedAll true (groups.map Group.grName)),
            combined idsSize.toNat (appendedAll true (groups.map signedText)))
        else none := by
  have hreset : iterator.reset.Yields getgrgid groups := by
    unfold GroupsIterator.Yields at hyields ⊢
    rwa [hstart] at hyields
  have hloop : generateTexts getgrgid 1 _ iterator.reset true (combined namesSize.toNat [])
      (combined idsSize.toNat []) = _ :=
    generateTexts_eq namesSize.toNat_lt idsSize.toNat_lt hreset hreset.length_le hprintable
      (Nat.zero_le _) (Nat.zero_le _)
  simp only [List.length_nil, Nat.zero_add, List.nil_append] at hloop
  exact hloop

/-- What becomes of the two texts once they are written. -/
theorem addGroupsForUser_eq {namesSize idsSize : UInt32} {names ids : List Char}
    (hsizes : calculateSizeOfGroups getgrgid iterator = some (namesSize, idsSize))
    (hgenerated : generateGroupNamesAndIds getgrgid iterator.reset (Combined.zeroed namesSize)
      (Combined.zeroed idsSize)
        = some (true, combined namesSize.toNat names, combined idsSize.toNat ids))
    (hnames : nul ∉ names) (hids : nul ∉ ids) (hnamesLe : names.length ≤ namesSize.toNat)
    (hidsLe : ids.length ≤ idsSize.toNat) (parentObj : JsonObjectWriter) :
    addGroupsForUser getgrgid
        { groupsIterator := some iterator
          mallocNames := true
          mallocIds := true
          writeNames := true
          writeIds := true } parentObj
      = if names.length < namesSize.toNat ∧ ids.length < idsSize.toNat then
          some (true, (parentObj.writeString LOCAL_USERS_GROUP_NAMES_KEY
            (String.ofList names)).writeString LOCAL_USERS_GROUP_IDS_KEY (String.ofList ids))
        else none := by
  have hnamesText := cStringIn_filled hnames hnamesLe
  have hidsText := cStringIn_filled hids hidsLe
  unfold addGroupsForUser
  simp only [hsizes, hgenerated, combined, hnamesText, hidsText, Bool.true_eq_false, or_self,
    if_false, Option.bind_eq_bind, Option.bind_some]
  by_cases hname : names.length < namesSize.toNat
  · rw [if_pos hname]
    by_cases hid : ids.length < idsSize.toNat
    · rw [if_pos hid, if_pos ⟨hname, hid⟩]
      rfl
    · rw [if_neg hid, if_neg fun h => hid h.2]
      rfl
  · have hno : ¬ (names.length < namesSize.toNat ∧ ids.length < idsSize.toNat) := fun h =>
      hname h.1
    rw [if_neg hname, if_neg hno]
    rfl

theorem calculateSizeOfGroups_eq (hyields : iterator.Yields getgrgid groups)
    (hstart : iterator.currentGroupIndex = 0) (hprintable : ∀ group ∈ groups, Printable group)
    (hne : groups ≠ []) :
    calculateSizeOfGroups getgrgid iterator
      = some (UInt32.ofNat ((joined (groups.map Group.grName)).length + 1),
        UInt32.ofNat ((joined (groups.map signedText)).length + 1)) := by
  have hcount : iterator.groups.length = groups.length := by
    have hlength := congrArg List.length hyields
    rwa [hstart, List.drop_zero, List.length_map, List.length_map] at hlength
  have hlt := iterator.length_groups_lt
  have hpos : 0 < groups.length := List.length_pos_iff.mpr hne
  have hone : (1 : UInt32).toNat = 1 := rfl
  have hminus : (iterator.getGroupsCount - 1).toNat = groups.length - 1 := by
    unfold GroupsIterator.getGroupsCount
    rw [hcount, UInt32.toNat_sub_of_le _ _ (by
      rw [UInt32.le_iff_toNat_le, UInt32.toNat_ofNat_of_lt' (hcount ▸ hlt)]
      exact hpos), UInt32.toNat_ofNat_of_lt' (hcount ▸ hlt), hone]
  have hsize : ∀ f : Group → String,
      UInt32.ofNat (LOCAL_USERS_PAYLOAD_DELIMITER.length
        * (iterator.getGroupsCount - 1).toNat + 1) + UInt32.ofNat (total (groups.map f))
        = UInt32.ofNat ((joined (groups.map f)).length + 1) := by
    intro f
    have hdelimiter : LOCAL_USERS_PAYLOAD_DELIMITER.length = 1 := rfl
    have hmap : groups.map f ≠ [] := fun h => hne (List.map_eq_nil_iff.mp h)
    have hlength := length_joined hmap
    rw [List.length_map] at hlength
    rw [hminus, hlength, ← UInt32.ofNat_add, hdelimiter]
    exact congrArg UInt32.ofNat (by omega)
  have hrounds : groups.length ≤ iterator.groups.length := Nat.le_of_eq hcount.symm
  unfold calculateSizeOfGroups
  dsimp only
  rw [(calculateSizes_eq hyields hrounds).1 hprintable, hsize, hsize]

/-- Without a group there is not even room for the terminators. -/
theorem calculateSizeOfGroups_nil (hyields : iterator.Yields getgrgid [])
    (hstart : iterator.currentGroupIndex = 0) :
    calculateSizeOfGroups getgrgid iterator = some (0, 0) := by
  have hnone : iterator.groups = [] := by
    have hdrop := List.map_eq_nil_iff.mp hyields
    rwa [hstart, List.drop_zero] at hdrop
  have hsize : UInt32.ofNat (LOCAL_USERS_PAYLOAD_DELIMITER.length
      * (UInt32.ofNat ([] : List UInt32).length - 1).toNat + 1) = 0 := by decide
  unfold calculateSizeOfGroups GroupsIterator.getGroupsCount
  rw [hnone]
  dsimp only
  rw [hsize]
  rfl

/-- The two texts are known by the object they are written to. -/
theorem written_texts {parentObj : JsonObjectWriter} {names names' ids ids' : String}
    (h : (parentObj.writeString LOCAL_USERS_GROUP_NAMES_KEY names).writeString
        LOCAL_USERS_GROUP_IDS_KEY ids
      = (parentObj.writeString LOCAL_USERS_GROUP_NAMES_KEY names').writeString
        LOCAL_USERS_GROUP_IDS_KEY ids') : names = names' ∧ ids = ids' := by
  have hkeys : LOCAL_USERS_GROUP_NAMES_KEY ≠ LOCAL_USERS_GROUP_IDS_KEY := by decide
  have hlookup := fun key => congrArg (fun writer => writer.rootObject.lookup key) h
  simp only [JsonObjectWriter.writeString, JsonObjectWriter.lookup_setValue] at hlookup
  have hnames := hlookup LOCAL_USERS_GROUP_NAMES_KEY
  have hids := hlookup LOCAL_USERS_GROUP_IDS_KEY
  rw [if_neg hkeys, if_pos rfl, if_neg hkeys, if_pos rfl] at hnames
  rw [if_pos rfl, if_pos rfl] at hids
  exact ⟨Json.string.inj (Option.some.inj hnames), Json.string.inj (Option.some.inj hids)⟩

/--
**When a user's groups are added.** For every list of groups, from its start: exactly if there is
one, the ids are below 2³¹, and 32 bits hold the size of the two texts.
-/
theorem groupsAdded_iff (hstart : iterator.currentGroupIndex = 0)
    (hyields : iterator.Yields getgrgid groups) (parentObj : JsonObjectWriter) :
    GroupsAdded getgrgid iterator groups parentObj
      ↔ groups ≠ [] ∧ (∀ group ∈ groups, group.grGid.toNat < 2 ^ 31)
        ∧ (joined (groups.map Group.grName)).length + 1 < 2 ^ 32
        ∧ (joined (groups.map unsignedText)).length + 1 < 2 ^ 32 := by
  have hrounds := hyields.length_le
  have hnulNames : nul ∉ appendedAll true (groups.map Group.grName) :=
    not_mem_appendedAll (by decide) (List.forall_mem_map.mpr fun group _ => group.nul_not_mem)
  have hnulIds : nul ∉ appendedAll true (groups.map signedText) :=
    not_mem_appendedAll (by decide)
      (List.forall_mem_map.mpr fun group _ => nul_not_mem_signedText group)
  constructor
  · rintro ⟨namesSize, idsSize, names, ids, hsizes, hgenerated, hnames, hids, hadded⟩
    -- the first pass has come through, so every id has had room
    have hprintable : ∀ group ∈ groups, Printable group := by
      by_contra hno
      push Not at hno
      unfold calculateSizeOfGroups at hsizes
      dsimp only at hsizes
      rw [(calculateSizes_eq hyields hrounds).2 hno] at hsizes
      cases hsizes
    have hne : groups ≠ [] := by
      rintro rfl
      rw [calculateSizeOfGroups_nil hyields hstart, Option.some.injEq, Prod.mk.injEq] at hsizes
      rw [← hsizes.1] at hnames
      exact absurd hnames (Nat.succ_ne_zero _)
    have hwritten := generateGroupNamesAndIds_eq hstart hyields hprintable namesSize idsSize
    by_cases hfits : (appendedAll true (groups.map Group.grName)).length ≤ namesSize.toNat
        ∧ (appendedAll true (groups.map signedText)).length ≤ idsSize.toNat
    swap
    · rw [if_neg hfits, hgenerated] at hwritten
      cases hwritten
    rw [if_pos hfits] at hwritten
    have hresult := addGroupsForUser_eq hsizes hwritten hnulNames hnulIds hfits.1 hfits.2 parentObj
    rw [hadded] at hresult
    split at hresult
    swap
    · cases hresult
    next hterminated =>
      obtain ⟨hnamesText, hidsText⟩ := written_texts (Prod.ext_iff.mp (Option.some.inj hresult)).2
      have hnamesLt := namesSize.toNat_lt
      have hidsLt := idsSize.toNat_lt
      refine ⟨hne, fun group hmem => ?_, ?_, ?_⟩
      · by_contra hge
        -- a sign is written, and none is in the text that is meant
        have hshort := hprintable group hmem
        unfold Printable MAX_ID_AS_STRING_LENGTH at hshort
        refine sign_not_mem_unsigned groups ?_
        rw [hidsText, String.toList_ofList, appendedAll_true]
        refine Separated.mem_intercalate_of_mem
          (List.mem_map_of_mem (List.mem_map_of_mem hmem)) ?_
        rw [cut_eq (by omega)]
        exact sign_mem_signedText (Nat.le_of_not_lt hge)
      · rw [hnamesText, ← String.length_toList, String.toList_ofList]
        omega
      · rw [hidsText, ← String.length_toList, String.toList_ofList]
        omega
  · rintro ⟨hne, hgids, hnames, hids⟩
    have hprintable : ∀ group ∈ groups, Printable group := fun group hmem =>
      printable_of_lt (hgids group hmem)
    -- below 2³¹ the id that is printed is the id of the group
    have hsigned : groups.map signedText = groups.map unsignedText :=
      List.map_congr_left fun group hmem => signedText_of_lt (hgids group hmem)
    have hsizes := calculateSizeOfGroups_eq hyields hstart hprintable hne
    have hnamesAll : appendedAll true (groups.map Group.grName)
        = (joined (groups.map Group.grName)).toList := appendedAll_eq_joined (by omega)
    have hidsAll : appendedAll true (groups.map unsignedText)
        = (joined (groups.map unsignedText)).toList := appendedAll_eq_joined (by omega)
    have hnamesSize := UInt32.toNat_ofNat_of_lt' hnames
    have hidsSize := UInt32.toNat_ofNat_of_lt' hids
    rw [hsigned] at hsizes
    have hwritten := generateGroupNamesAndIds_eq hstart hyields hprintable
      (UInt32.ofNat ((joined (groups.map Group.grName)).length + 1))
      (UInt32.ofNat ((joined (groups.map unsignedText)).length + 1))
    have hroom : (joined (groups.map Group.grName)).toList.length
          ≤ (UInt32.ofNat ((joined (groups.map Group.grName)).length + 1)).toNat
        ∧ (joined (groups.map unsignedText)).toList.length
          ≤ (UInt32.ofNat ((joined (groups.map unsignedText)).length + 1)).toNat := by
      rw [hnamesSize, hidsSize, String.length_toList, String.length_toList]
      exact ⟨Nat.le_succ _, Nat.le_succ _⟩
    rw [hsigned, hnamesAll, hidsAll, if_pos hroom] at hwritten
    have hresult := addGroupsForUser_eq hsizes hwritten (hnamesAll ▸ hnulNames)
      (hidsAll ▸ hsigned ▸ hnulIds) hroom.1 hroom.2 parentObj
    rw [hnamesSize, hidsSize, String.length_toList, String.length_toList,
      if_pos ⟨Nat.lt_succ_self _, Nat.lt_succ_self _⟩, String.ofList_toList,
      String.ofList_toList] at hresult
    exact ⟨_, _, _, _, hsizes, hwritten, currentPosition_combined _ hnames,
      currentPosition_combined _ hids, hresult⟩

/-- The groups 100 and 10. -/
theorem groupsAdded_iff_two :
    GroupsAdded
      (fun gid => if gid = 100 then some ⟨"users", 100, by decide⟩
        else if gid = 10 then some ⟨"wheel", 10, by decide⟩ else none)
      ⟨[100, 10], 0, by decide⟩ [⟨"users", 100, by decide⟩, ⟨"wheel", 10, by decide⟩]
      JsonObjectWriter.init := by
  refine (groupsAdded_iff rfl ?_ JsonObjectWriter.init).mpr ⟨List.cons_ne_nil _ _, ?_, ?_, ?_⟩
  · unfold GroupsIterator.Yields
    rfl
  · intro group hmem
    rcases List.mem_pair.mp hmem with rfl | rfl <;> decide
  · decide
  · decide

/-- The group -2, as the number without a sign that it is: its id is written as `-2`. -/
theorem high_id_negative :
    ¬ GroupsAdded (fun _ => some ⟨"nogroup", 4294967294, by decide⟩) ⟨[4294967294], 0, by decide⟩
      [⟨"nogroup", 4294967294, by decide⟩] JsonObjectWriter.init := by
  rintro ⟨_, _, _, _, -, -, -, -, hadded⟩
  have hwritten : addGroupsForUser (fun _ => some ⟨"nogroup", 4294967294, by decide⟩)
      { groupsIterator := some ⟨[4294967294], 0, by decide⟩
        mallocNames := true
        mallocIds := true
        writeNames := true
        writeIds := true } JsonObjectWriter.init
      = some (true, (JsonObjectWriter.init.writeString LOCAL_USERS_GROUP_NAMES_KEY
          "nogroup").writeString LOCAL_USERS_GROUP_IDS_KEY "-2") := by rfl
  rw [hwritten] at hadded
  have htexts := written_texts (Prod.ext_iff.mp (Option.some.inj hadded)).2
  exact absurd htexts.2 (by decide)

end LocalUsersCollector

end SecurityAgent
