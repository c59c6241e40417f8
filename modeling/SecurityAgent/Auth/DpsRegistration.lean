import SecurityAgent.Auth.NullSafety

/-!
# The texts for a registration

`AuthenticationManager_SetDPSDetails` allocates three buffers, each for its own format, and
formats three texts. The scope of the token is the one that is written with a
format other than the one its buffer has been measured with, and it is written only if there is a
shared access key.
-/

namespace SecurityAgent.AuthenticationManager

open Utils

/-- `SAS_TOKEN_SCOPE`, formatted. -/
def sasTokenScopeText (idScope registrationId : String) : String :=
  idScope ++ "/registrations/" ++ registrationId

/-- How large a buffer is allocated for a format. -/
def bufferSize (fmt idScope registrationId : String) : Nat :=
  fmt.length + (registrationId.length + idScope.length + 1)

/-- A buffer holds a text, with its terminator. -/
def Holds (size : Nat) (buffer : Option String) (text : String) : Prop :=
  buffer = some text ∧ text.length + 1 ≤ size

/-- What is asked of `AuthenticationManager_SetDPSDetails`: it returns true, and every buffer is large
enough for its text. -/
def Registers (o : DetailsAnswer) (am : AuthenticationManager) (idScope registrationId : String) :
    Prop :=
  ∃ am', am.setDPSDetails o (some idScope) (some registrationId) = some (true, am')
    ∧ Holds (bufferSize REGISTRATION_API idScope registrationId) am'.dpsRelativeUrl
      (registrationApi idScope registrationId)
    ∧ Holds (bufferSize REGISTRATION_BODY idScope registrationId) am'.dpsRequestContent
      (registrationBody registrationId)
    ∧ (am.sharedAccessKey ≠ none →
      Holds (bufferSize SAS_TOKEN_SCOPE idScope registrationId) am'.sasTokenScope
        (sasTokenScopeText idScope registrationId))

/-- An id as it can be stored. -/
structure IsId (id : String) : Prop where
  length_le : id.length ≤ 499
  /-- It is a C string. -/
  nul_not_mem : nul ∉ id.toList

theorem IsId.fits {id : String} (h : IsId id) : Fits id := by
  have hlen := h.length_le
  unfold Fits MAX_BUFF
  rw [UInt32.toNat_ofNat']
  omega

theorem IsId.text_stored {id : String} (h : IsId id) (dest : CharArray MAX_BUFF) :
    (stored dest id).text = id :=
  AuthenticationManager.text_stored h.nul_not_mem (Nat.lt_succ_of_le h.length_le)

section

variable {o : DetailsAnswer} {am : AuthenticationManager} {idScope registrationId : String}

/-- A text is written whole if it is shorter than the buffer. -/
theorem concatenateToString_room {fmt text : String} (hscope : IsId idScope)
    (hid : IsId registrationId) (hfmt : fmt.length ≤ 100) :
    Utils.concatenateToString ""
      (UInt32.ofNat (fmt.length + (registrationId.length + idScope.length + 1))).toNat text
        = if text.length ≥ bufferSize fmt idScope registrationId then none
          else some (text, bufferSize fmt idScope registrationId - text.length) := by
  have hlen := hscope.length_le
  have hlen' := hid.length_le
  unfold Utils.concatenateToString bufferSize
  rw [UInt32.toNat_ofNat', Nat.mod_eq_of_lt (by omega), String.empty_append]

theorem length_formats : REGISTRATION_API.length = 43 ∧ SAS_TOKEN_SCOPE.length = 19
    ∧ REGISTRATION_BODY.length = 25 := by
  decide +kernel

/-- The url is longer than the buffer for the scope, so that it is not written there. -/
theorem dpsTexts_eq (hscope : IsId idScope) (hid : IsId registrationId)
    (hidScope : am.idScope.text = idScope) (hregistrationId : am.registrationId.text = registrationId) :
    am.dpsTexts idScope registrationId =
      if am.sharedAccessKey = none then
        some (registrationApi idScope registrationId, "", registrationBody registrationId)
      else none := by
  obtain ⟨hapi, hsas, hbody⟩ := length_formats
  have hurlLen := length_registrationApi idScope registrationId
  have hbodyLen := length_registrationBody registrationId
  have hurl : ¬ (registrationApi idScope registrationId).length
      ≥ bufferSize REGISTRATION_API idScope registrationId := by
    unfold bufferSize
    omega
  have hcontent : ¬ (registrationBody registrationId).length
      ≥ bufferSize REGISTRATION_BODY idScope registrationId := by
    unfold bufferSize
    omega
  have hscopeUrl : (registrationApi idScope registrationId).length
      ≥ bufferSize SAS_TOKEN_SCOPE idScope registrationId := by
    unfold bufferSize
    omega
  unfold dpsTexts
  dsimp only
  rw [hidScope, hregistrationId, concatenateToString_room hscope hid (by omega), if_neg hurl]
  by_cases hkey : am.sharedAccessKey = none
  · rw [if_pos hkey, if_pos hkey]
    dsimp only
    rw [concatenateToString_room hscope hid (by omega), if_neg hcontent, Option.map_some]
  · rw [if_neg hkey, if_neg hkey]
    dsimp only
    rw [concatenateToString_room hscope hid (by omega), if_pos hscopeUrl]

/-- There is memory for the three buffers. -/
def Allocates (o : DetailsAnswer) : Prop :=
  o.dpsRelativeUrl = true ∧ o.sasTokenScope = true ∧ o.dpsRequestContent = true

/-- What it comes to. -/
theorem setDPSDetails_eq (ho : Allocates o) (hscope : IsId idScope) (hid : IsId registrationId) :
    ∃ am' : AuthenticationManager,
      am.setDPSDetails o (some idScope) (some registrationId) = some
        (if am.sharedAccessKey = none then
          (true, { am' with
            dpsRelativeUrl := some (registrationApi idScope registrationId)
            sasTokenScope := some ""
            dpsRequestContent := some (registrationBody registrationId) })
        else (false, am'.deinitDpsDetails)) := by
  obtain ⟨hurl, hsas, hcontent⟩ := ho
  have htexts : AuthenticationManager.dpsTexts
      { am with
        idScope := stored am.idScope idScope
        registrationId := stored am.registrationId registrationId } idScope registrationId
        = if am.sharedAccessKey = none then
            some (registrationApi idScope registrationId, "", registrationBody registrationId)
          else none :=
    dpsTexts_eq hscope hid (hscope.text_stored _) (hid.text_stored _)
  refine ⟨{ am with
    idScope := stored am.idScope idScope
    registrationId := stored am.registrationId registrationId }, ?_⟩
  simp only [setDPSDetails, copyString_eq, hscope.fits, hid.fits, hurl, hsas, hcontent, decide_true,
    Bool.true_eq_false, or_self, if_false]
  rw [htexts]
  by_cases hkey : am.sharedAccessKey = none
  · rw [if_pos hkey, if_pos hkey]
  · rw [if_neg hkey, if_neg hkey]

/--
**A registration fails as soon as there is a shared access key**, and without one all its texts are as
they should be: for every two ids of at most 499 characters, whatever the manager is like.
-/
theorem registers_iff (ho : Allocates o) (hscope : IsId idScope) (hid : IsId registrationId) :
    Registers o am idScope registrationId ↔ am.sharedAccessKey = none := by
  obtain ⟨am', hresult⟩ := @setDPSDetails_eq o am _ _ ho hscope hid
  unfold Registers
  rw [hresult]
  by_cases hkey : am.sharedAccessKey = none
  · rw [if_pos hkey]
    have hurlLen := length_registrationApi idScope registrationId
    have hbodyLen := length_registrationBody registrationId
    refine ⟨fun _ => hkey, fun _ => ⟨_, rfl, ⟨rfl, ?_⟩, ⟨rfl, ?_⟩, fun h => absurd hkey h⟩⟩ <;>
    · unfold bufferSize
      omega
  · rw [if_neg hkey]
    refine ⟨fun ⟨_, h, _⟩ => ?_, fun h => absurd h hkey⟩
    exact absurd (Prod.mk.inj (Option.some.inj h)).1 Bool.false_ne_true

end

/-- Everything is allocated. -/
def allocated : DetailsAnswer := ⟨true, true, true⟩

theorem isId_scope : IsId "scope" := ⟨by decide +kernel, by decide +kernel⟩

theorem isId_device : IsId "device" := ⟨by decide +kernel, by decide +kernel⟩

theorem registers_iff_init : Registers allocated init "scope" "device" :=
  (registers_iff ⟨rfl, rfl, rfl⟩ isId_scope isId_device).mpr rfl

/-- **With a key the url does not fit the buffer of the scope.** -/
theorem key_not_registered :
    ¬ Registers allocated { init with sharedAccessKey := some "key" } "scope" "device" := by
  rintro ⟨am', hresult, -⟩
  have hfails : (({ init with sharedAccessKey := some "key" } : AuthenticationManager).setDPSDetails
      allocated (some "scope") (some "device")).map Prod.fst = some false := by
    decide +kernel
  rw [hresult] at hfails
  exact absurd (Option.some.inj hfails).symm Bool.false_ne_true

end SecurityAgent.AuthenticationManager
