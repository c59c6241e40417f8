import Mathlib.Data.List.Nodup
import Mathlib.Data.Rat.Init

/-!
# JSON trees

A document as a parser hands it over: an object is the list of its members in
document order. Members are read by name, the first one winning, or by a
*dotted* name, which is cut at its dots and followed object by object. They are
written by name only, in place when there is one already and at the end
otherwise: a name with a dot in it can be written but not read back.

`Reorder` says that two documents differ in the order of members and in nothing
else; a reader that only looks names up cannot tell them apart.
-/

/-- A JSON value. -/
inductive Json where
  | null
  | bool (b : Bool)
  | number (n : Rat)
  | string (s : String)
  | array (items : List Json)
  | object (members : List (String × Json))
  deriving Repr, BEq

namespace Json

/-- The members of an object, in document order. -/
abbrev Members := List (String × Json)

/-! ## Names with dots -/

/-- The names a dotted name stands for. -/
def path (name : String) : List String := (name.toList.splitOn '.').map String.ofList

/-- Follow a dotted name: the value it leads to and the objects around that value, the
innermost first. -/
def dotget (above : List Members) (ms : Members) : List String → Option (Json × List Members)
  | [] => none
  | [key] => (ms.lookup key).map fun v => (v, ms :: above)
  | key :: keys =>
      match ms.lookup key with
      | some (.object ms') => dotget (ms :: above) ms' keys
      | _ => none

/-- The value a dotted name leads to does not depend on what is around the object. -/
theorem dotget_value (above above' : List Members) (ms : Members) (keys : List String) :
    (dotget above ms keys).map Prod.fst = (dotget above' ms keys).map Prod.fst := by
  induction keys generalizing above above' ms with
  | nil => rfl
  | cons key keys ih =>
      cases keys with
      | nil =>
          unfold dotget
          cases ms.lookup key <;> rfl
      | cons key' keys =>
          unfold dotget
          cases ms.lookup key with
          | none => rfl
          | some v =>
              cases v with
              | object ms' => exact ih _ _ ms'
              | null | bool _ | number _ | string _ | array _ => rfl

theorem path_of_no_dot {name : String} (h : '.' ∉ name.toList) : path name = [name] := by
  rw [path, List.splitOn_eq_singleton h]
  simp

theorem dotget_of_no_dot {above : List Members} {ms : Members} {name : String}
    (h : '.' ∉ name.toList) :
    dotget above ms (path name) = (ms.lookup name).map fun v => (v, ms :: above) := by
  rw [path_of_no_dot h]; rfl

/-- What comes before the first dot is not the whole name. -/
theorem path_of_dot {name : String} (h : '.' ∈ name.toList) :
    ∃ key keys, path name = key :: keys ∧ key ≠ name := by
  obtain ⟨as, bs, hname, has⟩ := List.eq_append_cons_of_mem h
  refine ⟨String.ofList as, (bs.splitOn '.').map String.ofList, ?_, fun he => ?_⟩
  · rw [path, hname, List.splitOn_append_cons_self_of_not_mem has]
    rfl
  · rw [← he, String.toList_ofList] at h
    exact has h

/-- A member whose own name has a dot in it cannot be followed to. -/
theorem dotget_of_dot {above : List Members} {name : String} {v : Json}
    (h : '.' ∈ name.toList) : dotget above [(name, v)] (path name) = none := by
  obtain ⟨key, keys, hp, hne⟩ := path_of_dot h
  have hkey : ([(name, v)] : Members).lookup key = none := by simp [hne]
  rw [hp]
  cases keys with
  | nil => simp only [dotget, hkey, Option.map_none]
  | cons key' keys => simp only [dotget, hkey]

/-! ## Texts -/

/-- The texts in a document, names left out. -/
inductive HasText : Json → String → Prop where
  | string (s : String) : HasText (.string s) s
  | item {items : List Json} {item : Json} {s : String} :
      item ∈ items → HasText item s → HasText (.array items) s
  | member {members : Members} {key : String} {value : Json} {s : String} :
      (key, value) ∈ members → HasText value s → HasText (.object members) s

theorem HasText.of_lookup {members : Members} {key : String} {value : Json} {s : String}
    (h : members.lookup key = some value) (hs : HasText value s) : HasText (.object members) s := by
  obtain ⟨before, after, rfl, -⟩ := List.lookup_eq_some_iff.mp h
  exact .member (List.mem_append_right _ List.mem_cons_self) hs

/-! ## Writing -/

/-- Set a member: in place if the name is there, else at the end. -/
def setMember : Members → String → Json → Members
  | [], key, v => [(key, v)]
  | (k, w) :: ms, key, v => if k = key then (k, v) :: ms else (k, w) :: setMember ms key v

theorem lookup_cons_eq (ms : Members) (key key' : String) (v : Json) :
    List.lookup key' ((key, v) :: ms) = if key' = key then some v else ms.lookup key' := by
  rw [List.lookup_cons]
  by_cases h : key' = key
  · simp [h]
  · have hb : (key' == key) = false := by simpa using h
    rw [hb, if_neg h]

theorem lookup_setMember (ms : Members) (key key' : String) (v : Json) :
    (setMember ms key v).lookup key' = if key' = key then some v else ms.lookup key' := by
  induction ms with
  | nil => exact lookup_cons_eq [] key key' v
  | cons m ms ih =>
      obtain ⟨k, w⟩ := m
      unfold setMember
      by_cases hk : k = key
      · rw [if_pos hk, lookup_cons_eq, lookup_cons_eq, hk]
        by_cases hk' : key' = key
        · rw [if_pos hk', if_pos hk']
        · rw [if_neg hk', if_neg hk', if_neg hk']
      · rw [if_neg hk, lookup_cons_eq, lookup_cons_eq, ih]
        by_cases hk' : key' = k
        · rw [if_pos hk', if_pos hk', if_neg fun he => hk (hk'.symm.trans he)]
        · rw [if_neg hk', if_neg hk']

/-! ## Reordering -/

/-- The same document, with the members of its objects in another order. -/
inductive Reorder : Json → Json → Prop where
  | refl (j : Json) : Reorder j j
  | perm {ms ms' : Members} : ms.Perm ms' → (ms.map Prod.fst).Nodup →
      Reorder (.object ms) (.object ms')
  | member {ms ms' : Members} {key : String} {v v' : Json} : Reorder v v' →
      Reorder (.object (ms ++ (key, v) :: ms')) (.object (ms ++ (key, v') :: ms'))
  | item {js js' : List Json} {v v' : Json} : Reorder v v' →
      Reorder (.array (js ++ v :: js')) (.array (js ++ v' :: js'))
  | trans {j j' j'' : Json} : Reorder j j' → Reorder j' j'' → Reorder j j''

/-- Both missing, or both there and the same up to order. -/
def OptReorder : Option Json → Option Json → Prop
  | none, none => True
  | some v, some v' => Reorder v v'
  | _, _ => False

theorem OptReorder.refl (o : Option Json) : OptReorder o o := by
  cases o with
  | none => trivial
  | some v => exact Reorder.refl v

theorem OptReorder.trans {a b c : Option Json} (h : OptReorder a b) (h' : OptReorder b c) :
    OptReorder a c := by
  cases a with
  | none =>
      cases b with
      | none => exact h'
      | some v => exact h.elim
  | some v =>
      cases b with
      | none => exact h.elim
      | some v' =>
          cases c with
          | none => exact h'.elim
          | some v'' => exact Reorder.trans h h'

/-- With distinct names the order of the members does not matter to a lookup. -/
theorem lookup_perm {ms ms' : Members} (hp : ms.Perm ms') (hnd : (ms.map Prod.fst).Nodup)
    (key : String) : ms.lookup key = ms'.lookup key := by
  induction hp with
  | nil => rfl
  | cons m _ ih =>
      obtain ⟨k, v⟩ := m
      rw [lookup_cons_eq, lookup_cons_eq, ih (List.nodup_cons.mp hnd).2]
  | swap m m' ms =>
      obtain ⟨k, v⟩ := m
      obtain ⟨k', v'⟩ := m'
      have hne : k ≠ k' := by
        simp only [List.map_cons, List.nodup_cons, List.mem_cons, not_or] at hnd
        exact fun he => hnd.1.1 he.symm
      simp only [lookup_cons_eq]
      by_cases hk : key = k
      · rw [if_pos hk, if_pos hk, if_neg fun he => hne (hk.symm.trans he)]
      · rw [if_neg hk, if_neg hk]
  | trans h _ ih ih' => exact (ih hnd).trans (ih' ((h.map Prod.fst).nodup_iff.mp hnd))

/-- What a reordered object answers: it is an object, with the same members up to order. -/
theorem Reorder.object_left {j j' : Json} (h : Reorder j j') :
    ∀ ms, j = .object ms → ∃ ms', j' = .object ms'
      ∧ ∀ key, OptReorder (ms.lookup key) (ms'.lookup key) := by
  induction h with
  | refl j => intro ms hj; exact ⟨ms, hj, fun _ => .refl _⟩
  | perm hp hnd =>
      rintro ms ⟨⟩
      exact ⟨_, rfl, fun key => lookup_perm hp hnd key ▸ .refl _⟩
  | @member ms₁ ms₂ k v v' hv _ =>
      rintro ms ⟨⟩
      refine ⟨_, rfl, fun key => ?_⟩
      rw [List.lookup_append, List.lookup_append, lookup_cons_eq, lookup_cons_eq]
      cases ms₁.lookup key with
      | some w => exact Reorder.refl w
      | none =>
          by_cases hk : key = k
          · rw [if_pos hk, if_pos hk]; exact hv
          · rw [if_neg hk, if_neg hk]; exact .refl _
  | item _ _ => intro ms hj; exact absurd hj (by simp)
  | trans _ _ ih ih' =>
      intro ms hj
      obtain ⟨ms', hj', h'⟩ := ih ms hj
      obtain ⟨ms'', hj'', h''⟩ := ih' ms' hj'
      exact ⟨ms'', hj'', fun key => (h' key).trans (h'' key)⟩

/-- What is no object stays as it is, or is an array on both sides. -/
theorem Reorder.not_object {j j' : Json} (h : Reorder j j') (hj : ∀ ms, j ≠ .object ms) :
    j' = j ∨ (∃ js, j = .array js) ∧ ∃ js, j' = .array js := by
  induction h with
  | refl j => exact Or.inl rfl
  | perm _ _ => exact absurd rfl (hj _)
  | member _ _ => exact absurd rfl (hj _)
  | item _ _ => exact Or.inr ⟨⟨_, rfl⟩, _, rfl⟩
  | trans _ _ ih ih' =>
      rcases ih hj with he | ⟨ha, js, rfl⟩
      · subst he; exact ih' hj
      · rcases ih' (by simp) with he | ⟨_, ha'⟩
        · exact Or.inr ⟨ha, js, he⟩
        · exact Or.inr ⟨ha, ha'⟩

end Json
