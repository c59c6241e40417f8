import SecurityAgent.Auth.AuthenticationManager

/-!
# When a DPS response is taken in whole or not at all

The response is read member by member, and each is stored as soon as it is read. A
response that fails after that leaves what has been stored. So a failed response
changes nothing in exactly two cases: it fails before its hub is stored, or
whatever it has stored by then was there already.
-/

namespace SecurityAgent

open Utils

namespace AuthenticationManager

/-! ## What is stored of a response -/

/-- The device is assigned, and the name of its hub is stored. -/
structure StoresHub (malloc : Bool) (parsed : Option Json) (reader : JsonObjectReader)
    (assignedHub : String) : Prop where
  parses : JsonObjectReader.initFromString malloc parsed = .ok reader
  assigned : ∃ status, reader.readCString RESPONSE_STATUS = .ok status
    ∧ unsafeAreStringsEqual (some status) (some RESPONSE_STATUS_ASSIGNED) true = some true
  readsHub : reader.readCString RESPONSE_ASSIGNED_HUB = .ok assignedHub
  hubFits : Fits assignedHub

/-- The device id can be read and stored. -/
structure ReadsDevice (reader : JsonObjectReader) (deviceId : String) : Prop where
  readsDevice : reader.readCString RESPONSE_DEVICE_ID = .ok deviceId
  deviceFits : Fits deviceId

/-- The time of the last update can be read and stored, and it is not the one there is. -/
structure ReadsNewTime (am : AuthenticationManager) (reader : JsonObjectReader)
    (lastUpdated : String) : Prop where
  readsTime : reader.readCString RESPONSE_LAST_UPDATED = .ok lastUpdated
  isNew : unsafeAreStringsEqual (some lastUpdated) (some am.lastDPSUpdateTime.text) true ≠ some true
  timeFits : Fits lastUpdated

/-- All three are stored. -/
structure StoresTime (am : AuthenticationManager) (malloc : Bool) (parsed : Option Json)
    (reader : JsonObjectReader) (assignedHub deviceId lastUpdated : String) : Prop
    extends StoresHub malloc parsed reader assignedHub, ReadsDevice reader deviceId,
      ReadsNewTime am reader lastUpdated

theorem updateTime_cases (reader : JsonObjectReader) (deviceId : String)
    (am : AuthenticationManager) :
    ((∀ time, ¬ ReadsNewTime am reader time)
        ∧ updateFromDpsResponse.updateTime reader deviceId am = (false, am))
      ∨ ∃ time, ReadsNewTime am reader time
        ∧ updateFromDpsResponse.updateTime reader deviceId am
          = (decide ((securityModuleApi deviceId).length < MAX_BUFF),
            { am with
              lastDPSUpdateTime := stored am.lastDPSUpdateTime time
              relativeUrl :=
                (am.relativeUrl.concatenateToString (securityModuleApi deviceId)).2 }) := by
  unfold updateFromDpsResponse.updateTime
  cases hread : reader.readCString RESPONSE_LAST_UPDATED with
  | error e => exact Or.inl ⟨fun time h => by simp [h.readsTime] at hread, rfl⟩
  | ok time =>
      have htime : ∀ {time'}, ReadsNewTime am reader time' → time' = time :=
        fun h => Except.ok.inj (h.readsTime.symm.trans hread)
      by_cases hnew : unsafeAreStringsEqual (some time) (some am.lastDPSUpdateTime.text) true
          = some true
      · exact Or.inl ⟨fun time' h => h.isNew (htime h ▸ hnew), if_pos hnew⟩
      · simp only [if_neg hnew, copyString_eq]
        by_cases hfits : Fits time
        · refine Or.inr ⟨time, ⟨hread, hnew, hfits⟩, ?_⟩
          rw [if_neg (by simp [hfits])]
          rfl
        · refine Or.inl ⟨fun time' h => hfits (htime h ▸ h.timeFits), ?_⟩
          rw [if_pos (by simp [hfits]), stored_of_not_fits hfits]

theorem updateDevice_cases (reader : JsonObjectReader) (am : AuthenticationManager) :
    ((∀ device, ¬ ReadsDevice reader device)
        ∧ updateFromDpsResponse.updateDevice reader am = (false, am))
      ∨ ∃ device, ReadsDevice reader device
        ∧ updateFromDpsResponse.updateDevice reader am
          = updateFromDpsResponse.updateTime reader device
            { am with deviceId := stored am.deviceId device } := by
  unfold updateFromDpsResponse.updateDevice
  cases hread : reader.readCString RESPONSE_DEVICE_ID with
  | error e => exact Or.inl ⟨fun device h => by simp [h.readsDevice] at hread, rfl⟩
  | ok device =>
      simp only [copyString_eq]
      by_cases hfits : Fits device
      · refine Or.inr ⟨device, ⟨hread, hfits⟩, ?_⟩
        rw [if_neg (by simp [hfits])]
      · refine Or.inl ⟨fun device' h => hfits ?_, ?_⟩
        · exact Except.ok.inj (h.readsDevice.symm.trans hread) ▸ h.deviceFits
        · rw [if_pos (by simp [hfits]), stored_of_not_fits hfits]

theorem updateHub_cases (malloc : Bool) (parsed : Option Json) (am : AuthenticationManager) :
    ((∀ reader hub, ¬ StoresHub malloc parsed reader hub)
        ∧ updateFromDpsResponse malloc parsed am = (false, am))
      ∨ ∃ reader hub, StoresHub malloc parsed reader hub
        ∧ updateFromDpsResponse malloc parsed am
          = updateFromDpsResponse.updateDevice reader
            { am with hostName := stored am.hostName hub } := by
  unfold updateFromDpsResponse
  cases hinit : JsonObjectReader.initFromString malloc parsed with
  | error e => exact Or.inl ⟨fun reader hub h => by simp [h.parses] at hinit, rfl⟩
  | ok reader =>
      have hreader : ∀ {reader' hub'}, StoresHub malloc parsed reader' hub' → reader' = reader :=
        fun h => Except.ok.inj (h.parses.symm.trans hinit)
      cases hstatus : reader.readCString RESPONSE_STATUS with
      | error e =>
          refine Or.inl ⟨fun reader' hub h => ?_, by simp only [hstatus]⟩
          obtain ⟨status, hs, -⟩ := h.assigned
          exact absurd ((hreader h ▸ hs).symm.trans hstatus) (by simp)
      | ok status =>
          simp only [hstatus]
          by_cases hassigned : unsafeAreStringsEqual (some status) (some RESPONSE_STATUS_ASSIGNED)
              true = some true
          · rw [if_neg (by simp [hassigned])]
            cases hread : reader.readCString RESPONSE_ASSIGNED_HUB with
            | error e =>
                refine Or.inl ⟨fun reader' hub h => ?_, rfl⟩
                exact absurd ((hreader h ▸ h.readsHub).symm.trans hread) (by simp)
            | ok hub =>
                simp only [copyString_eq]
                by_cases hfits : Fits hub
                · refine Or.inr ⟨reader, hub, ⟨hinit, ⟨status, hstatus, hassigned⟩, hread, hfits⟩, ?_⟩
                  rw [if_neg (by simp [hfits])]
                · refine Or.inl ⟨fun reader' hub' h => hfits ?_, ?_⟩
                  · have hhub := Except.ok.inj ((hreader h ▸ h.readsHub).symm.trans hread)
                    exact hhub ▸ h.hubFits
                  · rw [if_pos (by simp [hfits]), stored_of_not_fits hfits]
          · rw [if_pos hassigned]
            refine Or.inl ⟨fun reader' hub h => ?_, rfl⟩
            obtain ⟨status', hs, ha⟩ := h.assigned
            have heq := Except.ok.inj ((hreader h ▸ hs).symm.trans hstatus)
            exact hassigned (heq ▸ ha)

theorem StoresHub.unique {malloc : Bool} {parsed : Option Json} {reader reader' : JsonObjectReader}
    {hub hub' : String} (h : StoresHub malloc parsed reader hub)
    (h' : StoresHub malloc parsed reader' hub') : reader' = reader ∧ hub' = hub := by
  obtain rfl : reader' = reader := Except.ok.inj (h'.parses.symm.trans h.parses)
  exact ⟨rfl, Except.ok.inj (h'.readsHub.symm.trans h.readsHub)⟩

theorem ReadsDevice.unique {reader : JsonObjectReader} {device device' : String}
    (h : ReadsDevice reader device) (h' : ReadsDevice reader device') : device' = device :=
  Except.ok.inj (h'.readsDevice.symm.trans h.readsDevice)

theorem ReadsNewTime.unique {am : AuthenticationManager} {reader : JsonObjectReader}
    {time time' : String} (h : ReadsNewTime am reader time) (h' : ReadsNewTime am reader time') :
    time' = time :=
  Except.ok.inj (h'.readsTime.symm.trans h.readsTime)

theorem StoresTime.unique {am : AuthenticationManager} {malloc : Bool} {parsed : Option Json}
    {reader reader' : JsonObjectReader} {hub hub' device device' time time' : String}
    (h : StoresTime am malloc parsed reader hub device time)
    (h' : StoresTime am malloc parsed reader' hub' device' time') :
    hub' = hub ∧ device' = device ∧ time' = time := by
  obtain ⟨rfl, hhub⟩ := h.toStoresHub.unique h'.toStoresHub
  exact ⟨hhub, h.toReadsDevice.unique h'.toReadsDevice, h.toReadsNewTime.unique h'.toReadsNewTime⟩

/-- How far a response gets: what is stored of it, and what comes back. -/
inductive Outcome (am : AuthenticationManager) (malloc : Bool) (parsed : Option Json) :
    Bool × AuthenticationManager → Prop where
  | nothing : (∀ reader hub, ¬ StoresHub malloc parsed reader hub) →
      Outcome am malloc parsed (false, am)
  | hub {reader : JsonObjectReader} {hub : String} : StoresHub malloc parsed reader hub →
      (∀ device, ¬ ReadsDevice reader device) →
      Outcome am malloc parsed (false, { am with hostName := stored am.hostName hub })
  | device {reader : JsonObjectReader} {hub device : String} :
      StoresHub malloc parsed reader hub → ReadsDevice reader device →
      (∀ time, ¬ ReadsNewTime am reader time) →
      Outcome am malloc parsed (false, { am with
        hostName := stored am.hostName hub
        deviceId := stored am.deviceId device })
  | time {reader : JsonObjectReader} {hub device time : String} :
      StoresTime am malloc parsed reader hub device time →
      Outcome am malloc parsed (decide ((securityModuleApi device).length < MAX_BUFF), { am with
        hostName := stored am.hostName hub
        deviceId := stored am.deviceId device
        lastDPSUpdateTime := stored am.lastDPSUpdateTime time
        relativeUrl := (am.relativeUrl.concatenateToString (securityModuleApi device)).2 })

theorem updateFromDpsResponse_outcome (malloc : Bool) (parsed : Option Json)
    (am : AuthenticationManager) :
    Outcome am malloc parsed (updateFromDpsResponse malloc parsed am) := by
  rcases updateHub_cases malloc parsed am with ⟨hno, hu⟩ | ⟨reader, hub, hhub, hu⟩
  · rw [hu]
    exact .nothing hno
  rw [hu]
  rcases updateDevice_cases reader { am with hostName := stored am.hostName hub } with
    ⟨hno, hd⟩ | ⟨device, hdevice, hd⟩
  · rw [hd]
    exact .hub hhub hno
  rw [hd]
  rcases updateTime_cases reader device
      { am with hostName := stored am.hostName hub, deviceId := stored am.deviceId device } with
    ⟨hno, ht⟩ | ⟨time, htime, ht⟩
  · rw [ht]
    exact .device hhub hdevice fun time h => hno time ⟨h.readsTime, h.isNew, h.timeFits⟩
  · rw [ht]
    exact .time { hhub, hdevice with
      readsTime := htime.readsTime, isNew := htime.isNew, timeFits := htime.timeFits }

/-! ## Atomicity -/

/-- What a response may change is as it was. -/
structure SameRegistration (am am' : AuthenticationManager) : Prop where
  hostName : am'.hostName = am.hostName
  deviceId : am'.deviceId = am.deviceId
  relativeUrl : am'.relativeUrl = am.relativeUrl
  lastDPSUpdateTime : am'.lastDPSUpdateTime = am.lastDPSUpdateTime

/-- The response is taken in whole: all is stored, and the url fits. -/
def TakenInWhole (am : AuthenticationManager) (malloc : Bool) (parsed : Option Json) : Prop :=
  ∃ reader hub device time, StoresTime am malloc parsed reader hub device time
    ∧ (securityModuleApi device).length < MAX_BUFF

/-- Whatever is stored of the response was there already. -/
structure StoresNothingNew (am : AuthenticationManager) (malloc : Bool) (parsed : Option Json) :
    Prop where
  hub : ∀ reader hub, StoresHub malloc parsed reader hub → stored am.hostName hub = am.hostName
  device : ∀ reader hub device, StoresHub malloc parsed reader hub → ReadsDevice reader device →
    stored am.deviceId device = am.deviceId
  time : ∀ reader hub device time, StoresTime am malloc parsed reader hub device time →
    stored am.lastDPSUpdateTime time = am.lastDPSUpdateTime
      ∧ (am.relativeUrl.concatenateToString (securityModuleApi device)).2 = am.relativeUrl

/--
**When a failed DPS response leaves the registration as it was**, whatever the response and
whatever was there: exactly when it is taken in whole, and so has not failed, or what has been stored
of it by then was there already.
-/
theorem updateFromDpsResponse_atomic_iff (am : AuthenticationManager) (malloc : Bool)
    (parsed : Option Json) :
    ((updateFromDpsResponse malloc parsed am).1 = false →
        SameRegistration am (updateFromDpsResponse malloc parsed am).2)
      ↔ TakenInWhole am malloc parsed ∨ StoresNothingNew am malloc parsed := by
  have houtcome := updateFromDpsResponse_outcome malloc parsed am
  generalize updateFromDpsResponse malloc parsed am = r at houtcome
  cases houtcome with
  | nothing hno =>
      refine iff_of_true (fun _ => ⟨rfl, rfl, rfl, rfl⟩) (Or.inr ⟨?_, ?_, ?_⟩)
      · exact fun reader hub h => absurd h (hno reader hub)
      · exact fun reader hub _ h => absurd h (hno reader hub)
      · exact fun reader hub _ _ h => absurd h.toStoresHub (hno reader hub)
  | @hub reader hub hhub hno =>
      -- the hub is stored, and no device id is read: nothing of it may be new
      constructor
      · intro h
        refine Or.inr ⟨fun reader' hub' h' => ?_, fun reader' hub' device h' hd => ?_, ?_⟩
        · obtain ⟨-, rfl⟩ := hhub.unique h'
          exact (h rfl).hostName
        · obtain ⟨rfl, -⟩ := hhub.unique h'
          exact absurd hd (hno device)
        · intro reader' hub' device time h'
          obtain ⟨rfl, -⟩ := hhub.unique h'.toStoresHub
          exact absurd h'.toReadsDevice (hno device)
      · rintro (⟨reader', hub', device, time, h', -⟩ | h) _
        · obtain ⟨rfl, -⟩ := hhub.unique h'.toStoresHub
          exact absurd h'.toReadsDevice (hno device)
        · exact ⟨h.hub reader hub hhub, rfl, rfl, rfl⟩
  | @device reader hub device hhub hdevice hno =>
      -- the hub and the device id are stored, and no new time is read
      have hnotime : ∀ reader' hub' device' time,
          ¬ StoresTime am malloc parsed reader' hub' device' time := by
        intro reader' hub' device' time h'
        obtain ⟨rfl, -⟩ := hhub.unique h'.toStoresHub
        exact hno time h'.toReadsNewTime
      constructor
      · intro h
        refine Or.inr ⟨fun reader' hub' h' => ?_, fun reader' hub' device' h' hd => ?_,
          fun _ _ _ _ h' => absurd h' (hnotime _ _ _ _)⟩
        · obtain ⟨-, rfl⟩ := hhub.unique h'
          exact (h rfl).hostName
        · obtain ⟨rfl, -⟩ := hhub.unique h'
          obtain rfl := hdevice.unique hd
          exact (h rfl).deviceId
      · rintro (⟨_, _, _, _, h', -⟩ | h) _
        · exact absurd h' (hnotime _ _ _ _)
        · exact ⟨h.hub reader hub hhub, h.device reader hub device hhub hdevice, rfl, rfl⟩
  | @time reader hub device time hstores =>
      by_cases hfits : (securityModuleApi device).length < MAX_BUFF
      · refine iff_of_true (fun h => ?_) (Or.inl ⟨reader, hub, device, time, hstores, hfits⟩)
        exact absurd h (by simp [hfits])
      -- everything is stored, and then the url does not fit
      constructor
      · intro h
        have hsame := h (by simp [hfits])
        refine Or.inr ⟨fun reader' hub' h' => ?_, fun reader' hub' device' h' hd => ?_,
          fun reader' hub' device' time' h' => ?_⟩
        · obtain ⟨-, rfl⟩ := hstores.toStoresHub.unique h'
          exact hsame.hostName
        · obtain ⟨rfl, -⟩ := hstores.toStoresHub.unique h'
          obtain rfl := hstores.toReadsDevice.unique hd
          exact hsame.deviceId
        · obtain ⟨-, rfl, rfl⟩ := hstores.unique h'
          exact ⟨hsame.lastDPSUpdateTime, hsame.relativeUrl⟩
      · rintro (⟨reader', hub', device', time', h', hf⟩ | h) _
        · obtain ⟨-, rfl, -⟩ := hstores.unique h'
          exact absurd hf hfits
        · obtain ⟨htime, hurl⟩ := h.time reader hub device time hstores
          exact ⟨h.hub reader hub hstores.toStoresHub,
            h.device reader hub device hstores.toStoresHub hstores.toReadsDevice, hurl, htime⟩

/-- **A response without a device id leaves its hub behind.** -/
theorem rejected_response_stores_hub :
    (updateFromDpsResponse true (some (.object [("status", .string "assigned"),
        ("assignedHub", .string "other.azure-devices.net")])) init).1 = false
      ∧ ¬ SameRegistration init (updateFromDpsResponse true (some (.object
          [("status", .string "assigned"), ("assignedHub", .string "other.azure-devices.net")]))
          init).2 := by
  refine ⟨by decide +kernel, fun h => ?_⟩
  exact absurd (congrArg CharArray.text h.hostName) (by decide +kernel)

end AuthenticationManager

end SecurityAgent
