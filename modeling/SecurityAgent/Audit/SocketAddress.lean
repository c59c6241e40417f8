import SecurityAgent.Audit.ConnectionCreateCollector
import SecurityAgent.Lib.Separated
import SecurityAgent.Util.HexText

/-!
# The other side of a connection

The kernel gives the address as the bytes of a `sockaddr` in hexadecimal, and whoever has opened
the socket decides what is in it. The first byte says of which family the address
is; what is asked for after that stands at places of its own in either family.
-/

namespace SecurityAgent.ConnectionCreateEventCollector

open Utils

/-- The first byte, or 0 where there is none. -/
def familyOf (saddr : List UInt8) : UInt8 := saddr.getD 0 0

/-- How many bytes there have to be. -/
def addressEnd (saddr : List UInt8) : Nat := if familyOf saddr = AF_INET then 8 else 24

/-- The bytes of the address: four, or sixteen. -/
def addressBytes (saddr : List UInt8) : List UInt8 :=
  if familyOf saddr = AF_INET then (saddr.drop 4).take 4 else (saddr.drop 8).take 16

/-- The bytes of the port, in network order. -/
def portOf (saddr : List UInt8) : Nat := 256 * (saddr.getD 2 0).toNat + (saddr.getD 3 0).toNat

/-- What is asked of an answer for such bytes. -/
structure RemoteDescribed (saddr : List UInt8)
    (answer : Except EventCollectorResult (String × String)) : Prop where
  filtered : answer = .error .recordFiltered ↔ familyOf saddr ≠ AF_INET ∧ familyOf saddr ≠ AF_INET6
  error : familyOf saddr = AF_INET ∨ familyOf saddr = AF_INET6 →
    ((∃ result, answer = .error result) ↔ saddr.length < addressEnd saddr)
  port : ∀ address port, answer = .ok (address, port) → port = toString (portOf saddr)

/-! ## Addresses and their texts -/

theorem hexByte_injective {byte byte' : UInt8} (h : hexByte byte = hexByte byte') :
    byte = byte' := by
  have hdigit : ∀ n < 16, ∀ m < 16, Nat.digitChar n = Nat.digitChar m → n = m := by decide
  have hlt := byte.toNat_lt
  have hlt' := byte'.toNat_lt
  have hdigits := String.ofList_injective h
  have hhigh := hdigit _ (by omega) _ (by omega) (List.cons.inj hdigits).1
  have hlow := hdigit _ (by omega) _ (by omega) (List.cons.inj (List.cons.inj hdigits).2).1
  exact UInt8.toNat_inj.mp (by omega)

/-- The digits of a byte, none of which is a colon. -/
theorem toList_hexByte (byte : UInt8) :
    (hexByte byte).toList.length = 2 ∧ Separated.Free ':' (hexByte byte).toList := by
  have hdigit : ∀ n < 16, ':' ≠ Nat.digitChar n := by decide
  have hlt := byte.toNat_lt
  unfold hexByte Separated.Free
  rw [String.toList_ofList]
  refine ⟨rfl, fun hmem => ?_⟩
  rcases List.mem_cons.mp hmem with hhigh | hmem
  · exact hdigit _ (by omega) hhigh
  · exact hdigit _ (by omega) (List.mem_singleton.mp hmem)

theorem hexByte_append_injective {a b a' b' : UInt8}
    (h : (hexByte a ++ hexByte b).toList = (hexByte a' ++ hexByte b').toList) : a = a' ∧ b = b' := by
  rw [String.toList_append, String.toList_append] at h
  obtain ⟨ha, hb⟩ := List.append_inj h ((toList_hexByte a).1.trans (toList_hexByte a').1.symm)
  exact ⟨hexByte_injective (String.toList_injective ha), hexByte_injective (String.toList_injective hb)⟩

/-- The text of an IPv4 address as its pieces. -/
theorem toList_ipv4Address (saddrBytes : Nat → UInt8) :
    (ipv4Address saddrBytes).toList
      = ['.'].intercalate ([4, 5, 6, 7].map fun i => Nat.toDigits 10 (saddrBytes i).toNat) := by
  unfold ipv4Address
  rw [String.toList_intercalate, List.map_map]
  refine congrArg (List.intercalate ['.']) (List.map_congr_left fun i _ => ?_)
  exact Separated.toList_toString (saddrBytes i).toNat

/-- The text of an IPv6 address as its pieces. -/
theorem toList_ipv6Address (saddrBytes : Nat → UInt8) :
    (ipv6Address saddrBytes).toList = [':'].intercalate ([8, 10, 12, 14, 16, 18, 20, 22].map
      fun i => (hexByte (saddrBytes i) ++ hexByte (saddrBytes (i + 1))).toList) := by
  unfold ipv6Address
  rw [String.toList_intercalate, List.map_map]
  rfl

theorem ipv4Address_injective {saddrBytes saddrBytes' : Nat → UInt8}
    (h : ipv4Address saddrBytes = ipv4Address saddrBytes') :
    ∀ i ∈ [4, 5, 6, 7], saddrBytes i = saddrBytes' i := by
  have htext := congrArg String.toList h
  rw [toList_ipv4Address, toList_ipv4Address] at htext
  have hdigits := Separated.map_intercalate_injective
    (fun i _ => Separated.free_toDigits (by decide) (saddrBytes i).toNat)
    (fun i _ => Separated.free_toDigits (by decide) (saddrBytes' i).toNat) htext
  intro i hi
  exact UInt8.toNat_inj.mp (Separated.toDigits_injective (hdigits i hi))

theorem ipv6Address_injective {saddrBytes saddrBytes' : Nat → UInt8}
    (h : ipv6Address saddrBytes = ipv6Address saddrBytes') :
    ∀ i ∈ [8, 10, 12, 14, 16, 18, 20, 22],
      saddrBytes i = saddrBytes' i ∧ saddrBytes (i + 1) = saddrBytes' (i + 1) := by
  have hfree : ∀ a b : UInt8, Separated.Free ':' (hexByte a ++ hexByte b).toList := fun a b => by
    rw [String.toList_append]
    exact List.not_mem_append (toList_hexByte a).2 (toList_hexByte b).2
  have htext := congrArg String.toList h
  rw [toList_ipv6Address, toList_ipv6Address] at htext
  have hpieces := Separated.map_intercalate_injective (fun i _ => hfree _ _)
    (fun i _ => hfree _ _) htext
  exact fun i hi => hexByte_append_injective (hpieces i hi)

/-- No text is that of an address of either family. -/
theorem ipv4Address_ne_ipv6Address (saddrBytes saddrBytes' : Nat → UInt8) :
    ipv4Address saddrBytes ≠ ipv6Address saddrBytes' := by
  intro h
  have hcolon : ':' ∈ (ipv6Address saddrBytes').toList := by
    rw [toList_ipv6Address, List.map_cons, List.map_cons, List.intercalate_cons_cons]
    simp
  rw [← h, toList_ipv4Address] at hcolon
  rcases Separated.mem_intercalate hcolon with hdot | ⟨piece, hpiece, hmem⟩
  · exact absurd hdot (by decide)
  · obtain ⟨i, -, rfl⟩ := List.mem_map.mp hpiece
    exact Separated.free_toDigits (by decide) _ hmem

/-! ## The answer -/

/-- The bytes at some places, one by one. -/
theorem take_drop_eq {saddr saddr' : List UInt8} {n k : Nat} (hlen : n + k ≤ saddr.length)
    (hlen' : n + k ≤ saddr'.length)
    (h : ∀ i, n ≤ i → i < n + k → saddr.getD i 0 = saddr'.getD i 0) :
    (saddr.drop n).take k = (saddr'.drop n).take k := by
  refine List.ext_getElem (by simp only [List.length_take, List.length_drop]; omega) ?_
  intro i hi hi'
  rw [List.length_take, List.length_drop] at hi hi'
  have hbyte := h (n + i) (Nat.le_add_right n i) (by omega)
  rw [List.getElem_take, List.getElem_take, List.getElem_drop, List.getElem_drop]
  rwa [← List.getElem_eq_getD, ← List.getElem_eq_getD] at hbyte

/-- The text of the address. -/
def addressText (saddr : List UInt8) : String :=
  if familyOf saddr = AF_INET then ipv4Address (saddr.getD · 0) else ipv6Address (saddr.getD · 0)

/-- What becomes of the bytes. -/
theorem remoteOf_eq (saddr : List UInt8) :
    remoteOf saddr =
      if familyOf saddr ≠ AF_INET ∧ familyOf saddr ≠ AF_INET6 then .error .recordFiltered
      else if saddr.length < addressEnd saddr then .error .exception
      else .ok (addressText saddr, toString (portOf saddr)) := by
  have hport : (saddr.getD 2 0).toNat * 256 + (saddr.getD 3 0).toNat = portOf saddr := by
    unfold portOf
    omega
  unfold remoteOf addressEnd addressText
  dsimp only
  rw [hport]
  by_cases hinet : familyOf saddr = AF_INET
  · rw [if_pos hinet, if_pos hinet]
    exact if_congr Iff.rfl rfl (if_pos hinet)
  · rw [if_neg hinet, if_neg hinet]
    exact if_congr Iff.rfl rfl (if_neg hinet)

theorem remoteOf_described (saddr : List UInt8) : RemoteDescribed saddr (remoteOf saddr) := by
  rw [remoteOf_eq]
  by_cases hother : familyOf saddr ≠ AF_INET ∧ familyOf saddr ≠ AF_INET6
  · rw [if_pos hother]
    refine ⟨⟨fun _ => hother, fun _ => rfl⟩, fun hfamily => ?_, fun _ _ h => nomatch h⟩
    rcases hfamily with hinet | hinet6
    · exact absurd hinet hother.1
    · exact absurd hinet6 hother.2
  rw [if_neg hother]
  by_cases hshort : saddr.length < addressEnd saddr
  · rw [if_pos hshort]
    exact ⟨⟨fun h => (nomatch h), fun h => absurd h hother⟩,
      fun _ => ⟨fun _ => hshort, fun _ => ⟨_, rfl⟩⟩, fun _ _ h => nomatch h⟩
  · rw [if_neg hshort]
    refine ⟨⟨fun h => (nomatch h), fun h => absurd h hother⟩,
      fun _ => ⟨fun ⟨_, h⟩ => (nomatch h), fun h => absurd h hshort⟩, fun address port h => ?_⟩
    cases h
    rfl

/-- **The text of an address determines its bytes.** -/
theorem addressBytes_of_remoteOf {saddr saddr' : List UInt8} {address port port' : String}
    (h : remoteOf saddr = .ok (address, port)) (h' : remoteOf saddr' = .ok (address, port')) :
    addressBytes saddr = addressBytes saddr' := by
  have hok : ∀ {saddr : List UInt8} {port : String}, remoteOf saddr = .ok (address, port) →
      addressEnd saddr ≤ saddr.length ∧ addressText saddr = address := by
    intro saddr port h
    rw [remoteOf_eq] at h
    split at h
    · cases h
    split at h
    · cases h
    · cases h
      exact ⟨Nat.le_of_not_lt ‹_›, rfl⟩
  obtain ⟨hlen, htext⟩ := hok h
  obtain ⟨hlen', htext'⟩ := hok h'
  rw [← htext'] at htext
  unfold addressEnd at hlen hlen'
  unfold addressText at htext
  unfold addressBytes
  by_cases hinet : familyOf saddr = AF_INET <;> by_cases hinet' : familyOf saddr' = AF_INET
  · rw [if_pos hinet] at hlen htext ⊢
    rw [if_pos hinet'] at hlen' htext ⊢
    refine take_drop_eq hlen hlen' fun i hi hi' => ipv4Address_injective htext i ?_
    simp only [List.mem_cons, List.not_mem_nil, or_false]
    omega
  · rw [if_pos hinet, if_neg hinet'] at htext
    exact absurd htext (ipv4Address_ne_ipv6Address _ _)
  · rw [if_neg hinet, if_pos hinet'] at htext
    exact absurd htext.symm (ipv4Address_ne_ipv6Address _ _)
  · rw [if_neg hinet] at hlen htext ⊢
    rw [if_neg hinet'] at hlen' htext ⊢
    refine take_drop_eq hlen hlen' fun i hi hi' => ?_
    have hpair := ipv6Address_injective htext (i - i % 2) (by
      simp only [List.mem_cons, List.not_mem_nil, or_false]
      omega)
    rcases Nat.mod_two_eq_zero_or_one i with heven | hodd
    · rw [heven] at hpair
      exact hpair.1
    · rw [hodd, Nat.sub_add_cancel (by omega)] at hpair
      exact hpair.2

theorem getRemoteInformation_eq {e : AuditEvent} {auditStrValue : String} {saddr : List UInt8}
    (hread : e.readString AUDIT_CONNECTION_CREATION_REMOTE_SOCKET_ADDRESS = .ok auditStrValue)
    (hhex : Spells auditStrValue.toList saddr)
    (hfits : saddr.length < AUDIT_CONNECTION_CREATION_MAX_BUFF) :
    getRemoteInformation e = remoteOf saddr := by
  have hlen := hhex.length
  rw [String.length_toList] at hlen
  have hlength : auditStrValue.length < 2 ^ 32 := by
    unfold AUDIT_CONNECTION_CREATION_MAX_BUFF at hfits
    omega
  unfold getRemoteInformation
  rw [hread]
  dsimp only
  rw [hexStringToByteArray_spells hhex hfits hlength]

/--
**The other side of a connection is what the bytes say.** For every `saddr` that spells bytes and
fits the buffer: which of them are filtered out or refused, what the port is, and that of two that
are not, the same address is the same bytes.
-/
theorem remote_information_decoded {e : AuditEvent} {auditStrValue : String} {saddr : List UInt8}
    (hread : e.readString AUDIT_CONNECTION_CREATION_REMOTE_SOCKET_ADDRESS = .ok auditStrValue)
    (hhex : Spells auditStrValue.toList saddr)
    (hfits : saddr.length < AUDIT_CONNECTION_CREATION_MAX_BUFF) :
    RemoteDescribed saddr (getRemoteInformation e)
      ∧ ∀ (e' : AuditEvent) (auditStrValue' : String) (saddr' : List UInt8),
        e'.readString AUDIT_CONNECTION_CREATION_REMOTE_SOCKET_ADDRESS = .ok auditStrValue' →
        Spells auditStrValue'.toList saddr' →
        saddr'.length < AUDIT_CONNECTION_CREATION_MAX_BUFF →
        ∀ address port port', getRemoteInformation e = .ok (address, port) →
          getRemoteInformation e' = .ok (address, port') →
          addressBytes saddr = addressBytes saddr' := by
  rw [getRemoteInformation_eq hread hhex hfits]
  refine ⟨remoteOf_described saddr, fun e' auditStrValue' saddr' hread' hhex' hfits' => ?_⟩
  rw [getRemoteInformation_eq hread' hhex' hfits']
  exact fun address port port' => addressBytes_of_remoteOf

/-- A connection to port 53 of 10.0.0.1. -/
def nameServerConnection : AuditEvent :=
  { AuditEvent.nothing with
    firstRecord := 1
    field := fun _ => .found ⟨some "020000350A000001", none, none⟩ }

theorem nameServer_spelled :
    Spells "020000350A000001".toList [0 * 16 + 2, 0 * 16 + 0, 0 * 16 + 0, 3 * 16 + 5, 0 * 16 + 10,
      0 * 16 + 0, 0 * 16 + 0, 0 * 16 + 1] := by
  repeat' constructor

theorem remote_information_decoded_nameServer :
    RemoteDescribed [2, 0, 0, 53, 10, 0, 0, 1] (getRemoteInformation nameServerConnection)
      ∧ getRemoteInformation nameServerConnection = .ok ("10.0.0.1", "53") :=
  ⟨(remote_information_decoded rfl nameServer_spelled (by decide)).1, rfl⟩

end SecurityAgent.ConnectionCreateEventCollector
