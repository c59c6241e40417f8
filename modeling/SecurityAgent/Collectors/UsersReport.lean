import SecurityAgent.Collectors.UserGroups
import SecurityAgent.Collectors.UsersIterator

/-!
# What is reported of the users

A collection goes through all users, whatever becomes of one of them. It breaks where memory is
used that is not there: an iterator of groups that could not get its memory is freed twice, groups
that have come between the two calls of `getgrouplist` are read behind the buffer, and for a user
without a group two texts are read from buffers of no size.
-/

namespace SecurityAgent

open Utils

namespace LocalUsersCollector

variable {getgrgid : UInt32 → Option Group}

/-! ## The groups that are listed -/

/-- The groups of these ids, if all are found and all ids have room. -/
def listGroups (getgrgid : UInt32 → Option Group) : List UInt32 → Option (List Group)
  | [] => some []
  | gid :: gids =>
      match getgrgid gid with
      | none => none
      | some group =>
          match idAsString group with
          | none => none
          | some _ => (listGroups getgrgid gids).map fun groups => group :: groups

theorem listGroups_eq_some {gids : List UInt32} {groups : List Group}
    (h : listGroups getgrgid gids = some groups) :
    gids.map getgrgid = groups.map some ∧ ∀ group ∈ groups, Printable group := by
  induction gids generalizing groups with
  | nil =>
      obtain rfl := Option.some.inj h
      exact ⟨rfl, fun _ hmem => absurd hmem List.not_mem_nil⟩
  | cons gid gids ih =>
      rw [listGroups] at h
      cases hgroup : getgrgid gid with
      | none =>
          rw [hgroup] at h
          cases h
      | some group =>
          rw [hgroup] at h
          dsimp only at h
          by_cases hprintable : Printable group
          · rw [idAsString_eq_some hprintable] at h
            obtain ⟨rest, hrest, rfl⟩ := Option.map_eq_some_iff.mp h
            obtain ⟨hmap, hall⟩ := ih hrest
            rw [List.map_cons, List.map_cons, hmap, hgroup, List.forall_mem_cons]
            exact ⟨rfl, hprintable, hall⟩
          · rw [idAsString_eq_none hprintable] at h
            cases h

/-- Where some of the groups are not listed, all are not. -/
theorem listGroups_take {gids : List UInt32} {n : Nat}
    (h : listGroups getgrgid (gids.take n) = none) : listGroups getgrgid gids = none := by
  induction gids generalizing n with
  | nil =>
      rw [List.take_nil] at h
      cases h
  | cons gid gids ih =>
      cases n with
      | zero => cases h
      | succ n =>
          rw [List.take_succ_cons, listGroups] at h
          rw [listGroups]
          cases hgroup : getgrgid gid with
          | none => rfl
          | some group =>
              rw [hgroup] at h
              dsimp only at h ⊢
              cases hid : idAsString group with
              | none => rfl
              | some id =>
                  rw [hid] at h
                  rw [ih (Option.map_eq_none_iff.mp h)]
                  rfl

/-- The first pass comes through as many groups as are listed. -/
theorem calculateSizes_isSome {rounds : Nat} :
    ∀ {iterator : GroupsIterator} {namesSize idsSize : UInt32},
      (calculateSizes getgrgid rounds iterator namesSize idsSize).isSome
        = (listGroups getgrgid
          ((iterator.groups.drop iterator.currentGroupIndex).take rounds)).isSome := by
  induction rounds with
  | zero =>
      intro iterator namesSize idsSize
      rw [List.take_zero]
      rfl
  | succ rounds ih =>
      intro iterator namesSize idsSize
      rw [calculateSizes, GroupsIterator.hasNext]
      by_cases hlt : iterator.currentGroupIndex < iterator.groups.length
      · rw [if_pos (decide_eq_true hlt), List.drop_eq_getElem_cons hlt, List.take_succ_cons,
          listGroups, GroupsIterator.next, List.getElem?_eq_getElem hlt, Option.bind_some]
        cases hgroup : getgrgid iterator.groups[iterator.currentGroupIndex] with
        | none => rfl
        | some group =>
            rw [Option.map_some]
            dsimp only
            cases hid : idAsString group with
            | none => rfl
            | some id =>
                dsimp only
                rw [ih, Option.isSome_map]
      · rw [if_neg fun h => hlt (of_decide_eq_true h), List.drop_eq_nil_of_le (by omega),
          List.take_nil]
        rfl

theorem calculateSizeOfGroups_isSome {gids : List UInt32} (hlt : gids.length < 2 ^ 32) :
    (calculateSizeOfGroups getgrgid ⟨gids, 0, hlt⟩).isSome = (listGroups getgrgid gids).isSome := by
  rw [calculateSizeOfGroups]
  dsimp only
  rw [calculateSizes_isSome, List.drop_zero, List.take_length]

/-! ## The object of a user -/

/-- 32 bits hold the size of the two texts. -/
def Fits (groups : List Group) : Prop :=
  (joined (groups.map Group.grName)).length + 1 < 2 ^ 32
    ∧ (joined (groups.map signedText)).length + 1 < 2 ^ 32

/-- What is written of the groups. -/
def withGroups (o : UserOutcome) (parentObj : JsonObjectWriter) : Option (List Group) →
    JsonObjectWriter
  | none => parentObj
  | some groups =>
      if o.mallocNames = true ∧ o.mallocIds = true ∧ o.writeNames = true then
        let parentObj := parentObj.writeString LOCAL_USERS_GROUP_NAMES_KEY
          (joined (groups.map Group.grName))
        if o.writeIds then parentObj.writeString LOCAL_USERS_GROUP_IDS_KEY
          (joined (groups.map signedText))
        else parentObj
      else parentObj

/-- Groups that are listed are written, as far as nothing fails. -/
theorem addGroupsForUser_listed {gids : List UInt32} (hlt : gids.length < 2 ^ 32)
    {groups : List Group} (hlist : listGroups getgrgid gids = some groups) (hne : groups ≠ [])
    (hfits : Fits groups) (o : UserOutcome) (parentObj : JsonObjectWriter) :
    ∃ added, addGroupsForUser getgrgid
      ⟨some ⟨gids, 0, hlt⟩, o.mallocNames, o.mallocIds, o.writeNames, o.writeIds⟩ parentObj
        = some (added, withGroups o parentObj (some groups)) := by
  obtain ⟨hnames, hids⟩ := hfits
  obtain ⟨hmap, hprintable⟩ := listGroups_eq_some hlist
  have hyields : (⟨gids, 0, hlt⟩ : GroupsIterator).Yields getgrgid groups := by
    rw [GroupsIterator.Yields, List.drop_zero]
    exact hmap
  have hsizes := calculateSizeOfGroups_eq hyields rfl hprintable hne
  have hnamesAll : appendedAll true (groups.map Group.grName)
      = (joined (groups.map Group.grName)).toList := appendedAll_eq_joined (by omega)
  have hidsAll : appendedAll true (groups.map signedText)
      = (joined (groups.map signedText)).toList := appendedAll_eq_joined (by omega)
  have hnamesSize := UInt32.toNat_ofNat_of_lt' hnames
  have hidsSize := UInt32.toNat_ofNat_of_lt' hids
  have hroom : (joined (groups.map Group.grName)).toList.length
        ≤ (UInt32.ofNat ((joined (groups.map Group.grName)).length + 1)).toNat
      ∧ (joined (groups.map signedText)).toList.length
        ≤ (UInt32.ofNat ((joined (groups.map signedText)).length + 1)).toNat := by
    rw [hnamesSize, hidsSize, String.length_toList, String.length_toList]
    omega
  have hwritten := generateGroupNamesAndIds_eq rfl hyields hprintable
    (UInt32.ofNat ((joined (groups.map Group.grName)).length + 1))
    (UInt32.ofNat ((joined (groups.map signedText)).length + 1))
  rw [hnamesAll, hidsAll, if_pos hroom] at hwritten
  have hnulNames : nul ∉ (joined (groups.map Group.grName)).toList := hnamesAll ▸
    not_mem_appendedAll (by decide) (List.forall_mem_map.mpr fun group _ => group.nul_not_mem)
  have hnulIds : nul ∉ (joined (groups.map signedText)).toList := hidsAll ▸
    not_mem_appendedAll (by decide)
      (List.forall_mem_map.mpr fun group _ => nul_not_mem_signedText group)
  have hnamesText := cStringIn_filled hnulNames hroom.1
  have hidsText := cStringIn_filled hnulIds hroom.2
  rw [hnamesSize, String.length_toList, if_pos (Nat.lt_succ_self _), String.ofList_toList]
    at hnamesText
  rw [hidsSize, String.length_toList, if_pos (Nat.lt_succ_self _), String.ofList_toList]
    at hidsText
  unfold addGroupsForUser withGroups
  dsimp only
  rw [hsizes]
  dsimp only
  cases hmallocNames : o.mallocNames with
  | false => exact ⟨false, rfl⟩
  | true =>
      cases hmallocIds : o.mallocIds with
      | false => exact ⟨false, rfl⟩
      | true =>
          rw [if_neg (by decide), hwritten, combined, combined, hnamesSize, hidsSize]
          dsimp only [Option.bind_eq_bind, Option.bind_some]
          rw [hnamesText]
          cases o.writeNames with
          | false => exact ⟨false, rfl⟩
          | true =>
              dsimp only [Option.bind_some]
              rw [hidsText]
              cases o.writeIds with
              | false => exact ⟨false, rfl⟩
              | true => exact ⟨true, rfl⟩

/-- **The two texts of a list of groups**, whatever fails. -/
theorem addGroupsForUser_cases {gids : List UInt32} (hlt : gids.length < 2 ^ 32) (o : UserOutcome)
    (hfits : ∀ groups, listGroups getgrgid gids = some groups → Fits groups)
    (parentObj : JsonObjectWriter) :
    (gids = [] ∧ o.mallocNames = true ∧ o.mallocIds = true → addGroupsForUser getgrgid
      ⟨some ⟨gids, 0, hlt⟩, o.mallocNames, o.mallocIds, o.writeNames, o.writeIds⟩ parentObj = none)
    ∧ (¬ (gids = [] ∧ o.mallocNames = true ∧ o.mallocIds = true) →
      ∃ added, addGroupsForUser getgrgid
        ⟨some ⟨gids, 0, hlt⟩, o.mallocNames, o.mallocIds, o.writeNames, o.writeIds⟩ parentObj
          = some (added, withGroups o parentObj (listGroups getgrgid gids))) := by
  have hsizes := @calculateSizeOfGroups_isSome getgrgid gids hlt
  cases hlist : listGroups getgrgid gids with
  | none =>
      rw [hlist, Option.isSome_none, Option.isSome_eq_false_iff, Option.isNone_iff_eq_none] at hsizes
      have hne : gids ≠ [] := by
        rintro rfl
        cases hlist
      refine ⟨fun h => absurd h.1 hne, fun _ => ⟨false, ?_⟩⟩
      unfold addGroupsForUser
      dsimp only
      rw [hsizes]
      rfl
  | some groups =>
      cases gids with
      | nil =>
          -- the sizes are 0, and there is no end of the text in a buffer of no size
          obtain rfl := Option.some.inj hlist
          have hyields : (⟨[], 0, hlt⟩ : GroupsIterator).Yields getgrgid [] := rfl
          unfold addGroupsForUser withGroups
          dsimp only
          rw [calculateSizeOfGroups_nil hyields rfl]
          dsimp only
          cases o.mallocNames with
          | false => exact ⟨fun h => absurd h.2.1 (by decide), fun _ => ⟨false, rfl⟩⟩
          | true =>
              cases o.mallocIds with
              | false => exact ⟨fun h => absurd h.2.2 (by decide), fun _ => ⟨false, rfl⟩⟩
              | true => exact ⟨fun _ => rfl, fun h => absurd ⟨rfl, rfl, rfl⟩ h⟩
      | cons gid gids =>
          have hne : groups ≠ [] := by
            rintro rfl
            have hmap := (listGroups_eq_some hlist).1
            cases hmap
          refine ⟨fun h => absurd h.1 (List.cons_ne_nil gid gids), fun _ => ?_⟩
          exact addGroupsForUser_listed hlt hlist hne (hfits groups hlist) o parentObj

/-- The groups that are listed for a user. -/
def listed (getgrgid : UInt32 → Option Group) (o : UserOutcome) : Option (List Group) :=
  if o.groupsInit.mallocIterator then listGroups getgrgid o.groupsInit.groups else none

/-- Memory is used that is not there, while the groups of a user are added. -/
def BreaksGroups (getgrgid : UInt32 → Option Group) (o : UserOutcome) : Prop :=
  o.groupsInit.mallocIterator = true
    ∧ ((0 < o.groupsInit.groupsCount ∧ o.groupsInit.mallocGroups = false)
      ∨ (o.groupsInit.groupsCount.toNat < o.groupsInit.groups.length
        ∧ (listGroups getgrgid
          (o.groupsInit.groups.take o.groupsInit.groupsCount.toNat)).isSome = true)
      ∨ (o.groupsInit.groups = [] ∧ o.mallocNames = true ∧ o.mallocIds = true))

/-- **The groups of a user**, whatever fails. -/
theorem addGroupsForCurrentUser_cases {o : UserOutcome}
    (hfits : ∀ groups, listGroups getgrgid o.groupsInit.groups = some groups → Fits groups)
    (parentObj : JsonObjectWriter) :
    (BreaksGroups getgrgid o → addGroupsForCurrentUser getgrgid o parentObj = none)
      ∧ (¬ BreaksGroups getgrgid o → ∃ added, addGroupsForCurrentUser getgrgid o parentObj
        = some (added, withGroups o parentObj (listed getgrgid o))) := by
  rw [BreaksGroups, addGroupsForCurrentUser, GroupsIterator.init, listed]
  cases hiterator : o.groupsInit.mallocIterator with
  | false => exact ⟨fun h => absurd h.1 (by decide), fun _ => ⟨false, rfl⟩⟩
  | true =>
      rw [if_neg (by decide), if_pos rfl]
      by_cases hfreed : 0 < o.groupsInit.groupsCount ∧ o.groupsInit.mallocGroups = false
      · rw [if_pos hfreed]
        exact ⟨fun _ => rfl, fun h => absurd ⟨rfl, Or.inl hfreed⟩ h⟩
      rw [if_neg hfreed]
      dsimp only
      by_cases hroom : o.groupsInit.groups.length ≤ o.groupsInit.groupsCount.toNat
      · rw [if_pos hroom]
        obtain ⟨hnone, hsome⟩ :=
          addGroupsForUser_cases o.groupsInit.length_groups_lt o hfits parentObj
        refine ⟨?_, fun h => hsome fun hempty => h ⟨rfl, Or.inr (Or.inr hempty)⟩⟩
        rintro ⟨_, hbad | ⟨hmore, _⟩ | hempty⟩
        · exact absurd hbad hfreed
        · omega
        · exact hnone hempty
      · rw [if_neg hroom]
        have hread := @calculateSizes_isSome getgrgid o.groupsInit.groupsCount.toNat
          ⟨o.groupsInit.groups, 0, o.groupsInit.length_groups_lt⟩ 0 0
        rw [List.drop_zero] at hread
        cases hlist : listGroups getgrgid
            (o.groupsInit.groups.take o.groupsInit.groupsCount.toNat) with
        | none =>
            rw [hlist, Option.isSome_none, Option.isSome_eq_false_iff,
              Option.isNone_iff_eq_none] at hread
            rw [hread, listGroups_take hlist]
            refine ⟨?_, fun _ => ⟨false, rfl⟩⟩
            rintro ⟨_, hbad | ⟨_, hsome⟩ | ⟨hempty, _⟩⟩
            · exact absurd hbad hfreed
            · exact absurd hsome (by decide)
            · rw [hempty] at hroom
              exact absurd (Nat.zero_le _) hroom
        | some groups =>
            rw [hlist] at hread
            obtain ⟨sizes, hsizes⟩ := Option.isSome_iff_exists.mp hread
            rw [hsizes]
            exact ⟨fun _ => rfl, fun h => absurd ⟨rfl, Or.inr (Or.inl ⟨by omega, rfl⟩)⟩ h⟩

/-- An id as an `int` is printed. -/
def userIdText (user : Passwd) : String := toString user.pwUid.toInt32.toInt

/-- There is always room for it. -/
theorem getUserId_eq (user : Passwd) :
    UsersIterator.getUserId user USER_ID_SIZE = some (userIdText user) := by
  refine if_neg (Nat.not_lt.mpr ?_)
  have hlt := Int32.toInt_lt user.pwUid.toInt32
  have hle := Int32.le_toInt user.pwUid.toInt32
  have hdigits : ∀ n : Nat, n ≤ 2 ^ 31 → n.repr.length ≤ 10 := fun n hn =>
    length_toString_le (by omega) (by omega)
  have hsign : ("-" : String).length = 1 := rfl
  rw [USER_ID_SIZE, Int.toString_eq_repr, Int.repr_eq_if]
  split
  · have hshort := hdigits user.pwUid.toInt32.toInt.toNat (by omega)
    omega
  · have hshort := hdigits (-user.pwUid.toInt32.toInt).toNat (by omega)
    rw [String.length_append, hsign]
    omega

/-- The members that say something of the groups. -/
def groupMembers (o : UserOutcome) : Option (List Group) → Json.Members
  | none => []
  | some groups =>
      if o.mallocNames = true ∧ o.mallocIds = true ∧ o.writeNames = true then
        (LOCAL_USERS_GROUP_NAMES_KEY, .string (joined (groups.map Group.grName)))
          :: if o.writeIds then
              [(LOCAL_USERS_GROUP_IDS_KEY, .string (joined (groups.map signedText)))]
            else []
      else []

/-- What is reported of a user: the name, the id, and as much of the groups as can be had; or
nothing, if that fails. -/
def userReport (getgrgid : UInt32 → Option Group) (o : UserOutcome) (user : Passwd) : Option Json :=
  if o.userObject = true ∧ o.writeName = true ∧ o.writeId = true ∧ o.addObject = true then
    some (.object ([(LOCAL_USERS_USER_NAME_KEY, .string user.pwName),
      (LOCAL_USERS_USER_ID_KEY, .string (userIdText user))]
        ++ groupMembers o (listed getgrgid o)))
  else none

theorem rootObject_withGroups (o : UserOutcome) (name id : String) (groups : Option (List Group)) :
    (withGroups o ((JsonObjectWriter.init.writeString LOCAL_USERS_USER_NAME_KEY name).writeString
      LOCAL_USERS_USER_ID_KEY id) groups).rootObject
        = [(LOCAL_USERS_USER_NAME_KEY, .string name), (LOCAL_USERS_USER_ID_KEY, .string id)]
          ++ groupMembers o groups := by
  have hname := JsonObjectWriter.written_init.add LOCAL_USERS_USER_NAME_KEY List.not_mem_nil
    (.string name)
  have hid := hname.add LOCAL_USERS_USER_ID_KEY (by decide) (.string id)
  cases groups with
  | none => exact hid.rootObject.trans (List.append_nil _).symm
  | some groups =>
      have hnames := hid.add LOCAL_USERS_GROUP_NAMES_KEY (by decide)
        (.string (joined (groups.map Group.grName)))
      have hids := hnames.add LOCAL_USERS_GROUP_IDS_KEY (by decide)
        (.string (joined (groups.map signedText)))
      rw [withGroups, groupMembers]
      by_cases hwrites : o.mallocNames = true ∧ o.mallocIds = true ∧ o.writeNames = true
      · rw [if_pos hwrites, if_pos hwrites]
        dsimp only
        cases o.writeIds with
        | true => exact hids.rootObject
        | false => exact hnames.rootObject
      · rw [if_neg hwrites, if_neg hwrites]
        exact hid.rootObject.trans (List.append_nil _).symm

/-- Memory is used that is not there, while a user is added. -/
def Breaks (getgrgid : UInt32 → Option Group) (o : UserOutcome) : Prop :=
  o.userObject = true ∧ o.writeName = true ∧ o.writeId = true ∧ BreaksGroups getgrgid o

/-- **One user**, whatever fails. -/
theorem addSingleUser_cases {o : UserOutcome}
    (hfits : ∀ groups, listGroups getgrgid o.groupsInit.groups = some groups → Fits groups)
    (user : Passwd) :
    (Breaks getgrgid o → addSingleUser getgrgid o user = none)
      ∧ (¬ Breaks getgrgid o →
        addSingleUser getgrgid o user = some (userReport getgrgid o user)) := by
  obtain ⟨hbreaks, hadds⟩ := addGroupsForCurrentUser_cases hfits
    ((JsonObjectWriter.init.writeString LOCAL_USERS_USER_NAME_KEY user.pwName).writeString
      LOCAL_USERS_USER_ID_KEY (userIdText user))
  rw [Breaks, addSingleUser, userReport, getUserId_eq]
  cases o.userObject with
  | false => exact ⟨fun h => absurd h.1 (by decide), fun _ => rfl⟩
  | true =>
      cases o.writeName with
      | false => exact ⟨fun h => absurd h.2.1 (by decide), fun _ => rfl⟩
      | true =>
          cases o.writeId with
          | false => exact ⟨fun h => absurd h.2.2.1 (by decide), fun _ => rfl⟩
          | true =>
              dsimp only
              refine ⟨fun h => ?_, fun h => ?_⟩
              · rw [hbreaks h.2.2.2]
                rfl
              · obtain ⟨added, hadded⟩ := hadds fun hgroups => h ⟨rfl, rfl, rfl, hgroups⟩
                rw [hadded]
                cases o.addObject with
                | false => rfl
                | true =>
                    rw [← rootObject_withGroups]
                    rfl

/-- **All users**, whatever fails with each of them. -/
theorem addUsers_cases {o : Nat → UserOutcome}
    (hfits : ∀ i groups, listGroups getgrgid (o i).groupsInit.groups = some groups → Fits groups)
    {users : List Passwd} :
    ∀ {i : Nat} {iterator : UsersIterator}, iterator.entries.users = users →
      ((∃ p ∈ users.zipIdx i, Breaks getgrgid (o p.2)) →
        addUsers getgrgid o users.length i iterator = none)
      ∧ ((∀ p ∈ users.zipIdx i, ¬ Breaks getgrgid (o p.2)) →
        addUsers getgrgid o users.length i iterator
          = some (if iterator.entries.errno then .exception else .stop,
            (users.zipIdx i).filterMap fun p => userReport getgrgid (o p.2) p.1)) := by
  induction users with
  | nil =>
      intro i iterator husers
      refine ⟨fun ⟨p, hp, _⟩ => absurd hp List.not_mem_nil, fun _ => ?_⟩
      rw [List.length_nil, addUsers, UsersIterator.getNext, husers]
      rfl
  | cons user users ih =>
      intro i iterator husers
      obtain ⟨hbreaks, hadds⟩ := addSingleUser_cases (hfits i) user
      obtain ⟨hnone, hsome⟩ := @ih (i + 1)
        ⟨some user, { iterator.entries with users := users }⟩ rfl
      have hnext : iterator.getNext
          = (.hasNext, ⟨some user, { iterator.entries with users := users }⟩) := by
        rw [UsersIterator.getNext, husers]
      rw [List.length_cons, addUsers, hnext, List.zipIdx_cons]
      dsimp only
      by_cases hbreak : Breaks getgrgid (o i)
      · rw [hbreaks hbreak]
        exact ⟨fun _ => rfl, fun h => absurd hbreak (h (user, i) List.mem_cons_self)⟩
      rw [hadds hbreak]
      refine ⟨?_, fun h => ?_⟩
      · rintro ⟨p, hp, hpbreak⟩
        rcases List.mem_cons.mp hp with rfl | hp
        · exact absurd hpbreak hbreak
        · dsimp only [Option.bind_eq_bind, Option.bind_some]
          rw [hnone ⟨p, hp, hpbreak⟩]
          rfl
      · dsimp only [Option.bind_eq_bind, Option.bind_some]
        rw [hsome fun p hp => h p (List.mem_cons_of_mem _ hp)]
        dsimp only [Option.bind_some]
        rw [List.filterMap_cons]
        dsimp only
        cases userReport getgrgid (o i) user with
        | none => rfl
        | some report => rfl

/-! ## The event -/

/-- The users are enumerated. -/
def UsersStart (clock : Clock) (o : UsersOutcome) : Prop :=
  o.rootObject = true ∧ o.metadata.Succeeds clock ∧ o.array = true ∧ o.usersIterator = true

theorem getEvents_not_started {clock : Clock} {o : UsersOutcome} (h : ¬ UsersStart clock o) :
    getEvents clock getgrgid o = some (.exception, none) := by
  unfold getEvents
  by_cases hroot : o.rootObject = false
  · rw [if_pos hroot]
  rw [if_neg hroot]
  obtain ⟨hsome, hnone⟩ := GenericEvent.addMetadata_cases clock o.metadata _ _ _ _
  by_cases hmetadata : o.metadata.Succeeds clock
  · obtain ⟨writer, hwriter, _⟩ := hsome hmetadata
    rw [hwriter]
    dsimp only
    rw [if_pos]
    by_contra hno
    rw [not_or, Bool.not_eq_false, Bool.not_eq_false] at hno
    exact h ⟨Bool.eq_true_of_not_eq_false hroot, hmetadata, hno⟩
  · rw [hnone hmetadata]

theorem getEvents_started {clock : Clock} {o : UsersOutcome} (h : UsersStart clock o) :
    ∃ writer : JsonObjectWriter,
      writer.rootObject.lookup GenericEvent.EVENT_NAME_KEY = some (.string LOCAL_USERS_NAME)
      ∧ getEvents clock getgrgid o
        = (addUsers getgrgid o.user o.entries.users.length 0 (UsersIterator.init o.entries)).bind
          fun added =>
            if added.1 = .stop ∧ o.payload = true ∧ o.serialize = true ∧ o.push = true then
              some (.ok, some ((writer.writeBool GenericEvent.EVENT_IS_EMPTY_KEY
                (added.2.length == 0)).writeArray GenericEvent.PAYLOAD_KEY added.2).rootValue)
            else some (.exception, none) := by
  obtain ⟨hroot, hmetadata, harray, hiterator⟩ := h
  obtain ⟨writer, hwriter, hname⟩ := (GenericEvent.addMetadata_cases clock o.metadata _ _ _ _).1 hmetadata
  refine ⟨writer, hname, ?_⟩
  unfold getEvents
  rw [hroot, if_neg (by decide), hwriter, harray, hiterator]
  dsimp only
  rw [if_neg (by decide), Option.bind_eq_bind]
  refine congrArg _ (funext fun added => ?_)
  obtain ⟨iteratorResult, usersPayloadArray⟩ := added
  dsimp only
  by_cases hstop : iteratorResult = .stop
  swap
  · rw [if_pos hstop, if_neg fun h => hstop h.1]
    rfl
  rw [if_neg fun hne => hne hstop, GenericEvent.addPayload]
  cases o.payload with
  | false =>
      rw [if_neg (by decide : ¬ false = true)]
      exact (if_neg fun h => absurd h.2.1 (by decide)).symm
  | true =>
      rw [if_pos rfl]
      dsimp only
      by_cases hpushes : o.serialize = true ∧ o.push = true
      · rw [if_pos hpushes, if_pos ⟨hstop, rfl, hpushes⟩]
        rfl
      · rw [if_neg hpushes, if_neg fun h => hpushes h.2.2]
        rfl

/-- What a collection that does not break has done. -/
structure UsersReported (clock : Clock) (getgrgid : UInt32 → Option Group) (o : UsersOutcome)
    (result : EventCollectorResult) (event : Option Json) : Prop where
  ok_iff : result = .ok ↔ UsersStart clock o ∧ o.entries.errno = false ∧ o.payload = true
    ∧ o.serialize = true ∧ o.push = true
  reports : result = .ok → ∃ members, event = some (.object members)
    ∧ members.lookup GenericEvent.EVENT_NAME_KEY = some (.string LOCAL_USERS_NAME)
    ∧ members.lookup GenericEvent.PAYLOAD_KEY = some (.array (o.entries.users.zipIdx.filterMap
      fun p => userReport getgrgid (o.user p.2) p.1))
  nothing : result ≠ .ok → event = none

theorem usersReported_exception {clock : Clock} {o : UsersOutcome}
    (h : ¬ (UsersStart clock o ∧ o.entries.errno = false ∧ o.payload = true
      ∧ o.serialize = true ∧ o.push = true)) :
    UsersReported clock getgrgid o .exception none where
  ok_iff := ⟨fun hok => EventCollectorResult.noConfusion hok, fun hall => absurd hall h⟩
  reports hok := EventCollectorResult.noConfusion hok
  nothing _ := rfl

/--
**Every user is reported, in the order of the enumeration, and with what can be had of the groups.**

Whatever fails with single users, and whatever the databases say: a collection breaks exactly if it
comes to the users and memory is used that is not there for one of them. If it does not
break, it succeeds exactly if the enumeration ends as it should and nothing fails but for single
users; then the event that it has pushed has one report for each user for whom there is one, and
no others. If it does not succeed, it has not pushed anything.
-/
theorem every_user_reported {clock : Clock} {o : UsersOutcome}
    (hfits : ∀ i groups, listGroups getgrgid (o.user i).groupsInit.groups = some groups →
      Fits groups) :
    (getEvents clock getgrgid o = none ↔ UsersStart clock o
      ∧ ∃ p ∈ o.entries.users.zipIdx, Breaks getgrgid (o.user p.2))
    ∧ ∀ result event, getEvents clock getgrgid o = some (result, event) →
      UsersReported clock getgrgid o result event := by
  by_cases hstart : UsersStart clock o
  swap
  · rw [getEvents_not_started hstart]
    refine ⟨⟨fun h => absurd h (Option.some_ne_none _), fun h => absurd h.1 hstart⟩, fun result event h => ?_⟩
    obtain ⟨rfl, rfl⟩ := Prod.mk.inj (Option.some.inj h)
    exact usersReported_exception fun h => hstart h.1
  obtain ⟨writer, hname, hevents⟩ := @getEvents_started getgrgid clock o hstart
  obtain ⟨hbreaks, hadds⟩ :=
    @addUsers_cases getgrgid o.user hfits o.entries.users 0 (UsersIterator.init o.entries) rfl
  rw [hevents]
  by_cases hbreak : ∃ p ∈ o.entries.users.zipIdx, Breaks getgrgid (o.user p.2)
  · rw [hbreaks hbreak]
    exact ⟨⟨fun _ => ⟨hstart, hbreak⟩, fun _ => rfl⟩, fun _ _ h => by cases h⟩
  rw [hadds fun p hp h => hbreak ⟨p, hp, h⟩, Option.bind_some]
  have hstop : (if (UsersIterator.init o.entries).entries.errno then UserIteratorResults.exception
      else .stop) = .stop ↔ o.entries.errno = false := by
    rw [UsersIterator.init]
    cases o.entries.errno <;> decide
  dsimp only
  by_cases hall : o.entries.errno = false ∧ o.payload = true ∧ o.serialize = true ∧ o.push = true
  · rw [if_pos ⟨hstop.mpr hall.1, hall.2⟩]
    refine ⟨⟨fun h => absurd h (Option.some_ne_none _), fun h => absurd h.2 hbreak⟩, fun result event h => ?_⟩
    obtain ⟨rfl, rfl⟩ := Prod.mk.inj (Option.some.inj h)
    refine ⟨⟨fun _ => ⟨hstart, hall⟩, fun _ => rfl⟩, fun _ => ⟨_, rfl, ?_, ?_⟩,
      fun h => absurd rfl h⟩
    · simp only [JsonObjectWriter.writeArray, JsonObjectWriter.writeBool,
        JsonObjectWriter.lookup_setValue]
      rw [if_neg (by decide), if_neg (by decide)]
      exact hname
    · simp only [JsonObjectWriter.writeArray, JsonObjectWriter.lookup_setValue, if_true]
  · rw [if_neg fun h => hall ⟨hstop.mp h.1, h.2⟩]
    refine ⟨⟨fun h => absurd h (Option.some_ne_none _), fun h => absurd h.2 hbreak⟩, fun result event h => ?_⟩
    obtain ⟨rfl, rfl⟩ := Prod.mk.inj (Option.some.inj h)
    exact usersReported_exception fun h => hall h.2

/-- Nothing fails for a user with these groups. -/
def inGroups (groups : List UInt32) (h : groups.length < 2 ^ 32) : UserOutcome where
  userObject := true
  writeName := true
  writeId := true
  groupsInit := ⟨true, UInt32.ofNat groups.length, true, groups, h⟩
  mallocNames := true
  mallocIds := true
  writeNames := true
  writeIds := true
  addObject := true

/-- Two users, the second of them in a group that has no name. -/
def twoUsers : UsersOutcome where
  rootObject := true
  metadata := ⟨0, some "i", true⟩
  array := true
  usersIterator := true
  entries := ⟨[⟨"root", 0⟩, ⟨"nobody", 65534⟩], false⟩
  user := fun i => if i = 0 then inGroups [0] (by decide) else inGroups [100] (by decide)
  payload := true
  serialize := true
  push := true

/-- The group of the first one. -/
def rootGroup (gid : UInt32) : Option Group :=
  if gid = 0 then some ⟨"root", 0, by decide⟩ else none

theorem every_user_reported_two :
    (getEvents ⟨fun _ => some "l", fun _ => some "u"⟩ rootGroup twoUsers = none
      ↔ UsersStart ⟨fun _ => some "l", fun _ => some "u"⟩ twoUsers
        ∧ ∃ p ∈ twoUsers.entries.users.zipIdx, Breaks rootGroup (twoUsers.user p.2))
    ∧ ∀ result event,
      getEvents ⟨fun _ => some "l", fun _ => some "u"⟩ rootGroup twoUsers = some (result, event) →
      UsersReported ⟨fun _ => some "l", fun _ => some "u"⟩ rootGroup twoUsers result event := by
  refine every_user_reported fun i groups h => ?_
  by_cases hi : i = 0
  · subst hi
    obtain rfl : [⟨"root", 0, by decide⟩] = groups := Option.some.inj h
    exact ⟨by decide, by decide⟩
  · have hnone : listGroups rootGroup (twoUsers.user i).groupsInit.groups = none := by
      rw [twoUsers]
      dsimp only
      rw [if_neg hi]
      rfl
    rw [hnone] at h
    cases h

end LocalUsersCollector

end SecurityAgent
