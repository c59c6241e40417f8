import SecurityAgent.Events.Visits

/-!
# No event is made up, moved or counted twice

Two accounts of `MessageSerializer_CreateSecurityMessage`. Whatever fails, a queue
loses a prefix of its events and a message that is made holds exactly those that
were not thrown away (`createSecurityMessage_accounted`). When nothing fails but
the parsing of a text, the result, the size and the end of every visit are known
as well (`createSecurityMessage_conserves`).
-/

namespace SecurityAgent

namespace MessageSerializer

/-- A message with these events. -/
def messageOf (agentId : String) (events : List Json) : Json :=
  .object [(AGENT_VERSION_KEY, .string AGENT_VERSION), (AGENT_ID_KEY, .string agentId),
    (MESSAGE_SCHEMA_VERSION_KEY, .string DEFAULT_MESSAGE_SCHEMA_VERSION),
    (EVENTS_KEY, .array events)]

theorem rootValue_message (agentId : String) (events : List Json) :
    ((messageHeader agentId).writeArray EVENTS_KEY events).rootValue = messageOf agentId events :=
  rfl

variable {parse : String → Option Json} {agentId : String}

/-! ## Whatever fails -/

variable (agentId) in
theorem createSecurityMessage_ok (maxMessageSize : UInt32) (queues : List (List Event))
    {r : MessageSerializerResult} {s : EventsArray} {queues' : List (List Event)}
    (hadd : addQueues parse maxMessageSize (fun _ => .ok) 0 .ok ⟨[], 0⟩ queues = (r, s, queues'))
    (hr : r = .ok ∨ r = .partialMessage) :
    createSecurityMessage parse agentId (.ok maxMessageSize) queues
      = if s.currentMessageSize = 0 then (.empty, none, queues')
        else (r, some (messageOf agentId s.events), queues') := by
  unfold createSecurityMessage generateEventList fillEventList
  cases queues with
  | nil =>
      obtain ⟨rfl, rfl, rfl⟩ := hadd
      rfl
  | cons queue queues =>
      simp only [MessageOutcome.ok, List.length_cons, Nat.add_eq_zero_iff, Nat.one_ne_zero, and_false,
        if_false, or_self, if_true, Bool.true_eq_false, hadd, rootValue_message]
      by_cases hzero : s.currentMessageSize = 0
      · simp only [if_pos hzero, reduceCtorEq, or_self, if_false]
      · simp only [if_neg hzero, if_pos hr]

section Visits

variable {visits : List Visit}

theorem filterMap_removed {v : Visit} (h : ∀ e ∈ v.discarded, eventValue parse e = none) :
    v.removed.filterMap (eventValue parse) = v.included.filterMap (eventValue parse) := by
  rw [Visit.removed, List.filterMap_append, List.filterMap_eq_nil_iff.mpr h, List.append_nil]

theorem filter_removed {v : Visit} (hp : ∀ e ∈ v.included, (eventValue parse e).isSome = true)
    (h : ∀ e ∈ v.discarded, eventValue parse e = none) :
    v.removed.filter (fun e => (eventValue parse e).isSome) = v.included := by
  rw [Visit.removed, List.filter_append, List.filter_eq_self.mpr hp,
    List.filter_eq_nil_iff.mpr fun e he => by simp [h e he], List.append_nil]

theorem filterMap_allRemoved
    (h : ∀ v ∈ visits, ∀ e ∈ v.discarded, eventValue parse e = none) :
    (visits.flatMap Visit.removed).filterMap (eventValue parse)
      = (Visit.allIncluded visits).filterMap (eventValue parse) := by
  induction visits with
  | nil => rfl
  | cons v visits ih =>
      rw [List.flatMap_cons, List.filterMap_append, filterMap_removed (h v List.mem_cons_self),
        ih fun w hw => h w (List.mem_cons_of_mem _ hw), Visit.allIncluded_cons,
        List.filterMap_append]

/-- An event that does not parse was removed exactly if one was thrown away. -/
theorem removed_unparsable_iff
    (hp : ∀ e ∈ Visit.allIncluded visits, (eventValue parse e).isSome = true)
    (h : ∀ v ∈ visits, ∀ e ∈ v.discarded, eventValue parse e = none) :
    (∃ e ∈ visits.flatMap Visit.removed, eventValue parse e = none)
      ↔ ∃ v ∈ visits, v.discarded ≠ [] := by
  constructor
  · rintro ⟨e, he, hnone⟩
    obtain ⟨v, hv, hev⟩ := List.mem_flatMap.mp he
    refine ⟨v, hv, fun hd => ?_⟩
    rw [Visit.removed, hd, List.append_nil] at hev
    have hsome := hp e (List.mem_flatMap.mpr ⟨v, hv, hev⟩)
    rw [hnone] at hsome
    exact absurd hsome (by simp)
  · rintro ⟨v, hv, hd⟩
    obtain ⟨e, he⟩ := List.exists_mem_of_ne_nil _ hd
    exact ⟨e, List.mem_flatMap.mpr ⟨v, hv, List.mem_append_right _ he⟩, h v hv e he⟩

/-- What is in the message and what is left do not outweigh the queues. -/
theorem totalSize_le (visits : List Visit) :
    totalSize (Visit.allIncluded visits) + totalSize (visits.flatMap Visit.rest)
      ≤ totalSize (visits.map Visit.queue).flatten := by
  induction visits with
  | nil => exact Nat.le_refl _
  | cons v visits ih =>
      simp only [Visit.allIncluded_cons, List.flatMap_cons, List.map_cons, List.flatten_cons,
        totalSize_append, Visit.queue, Visit.removed]
      omega

end Visits

/-- Why a visit ends: nothing is left, the front does not fit, or a text did not parse. `size` is
what the message holds by then. -/
def Ends (parse : String → Option Json) (maxMessageSize size : Nat) (v : Visit) : Prop :=
  v.rest = [] ∨ (∃ x xs, v.rest = x :: xs ∧ ¬ size + x.dataSize.toNat < maxMessageSize)
    ∨ ∃ x, v.removed.getLast? = some x ∧ eventValue parse x = none

/-- The result a message has, from what its visits took. -/
def resultOf (parse : String → Option Json) (visits : List Visit) : MessageSerializerResult :=
  if totalSize (Visit.allIncluded visits) = 0 then .empty
  else if ∃ e ∈ visits.flatMap Visit.removed, eventValue parse e = none then .partialMessage
  else .ok

section Exact

variable {maxMessageSize : UInt32} {faultless : Prop} {s : EventsArray}
  {r : MessageSerializerResult} {visits : List Visit}

/-- The running size is the exact one. -/
theorem Collected.size_exact (hc : Collected parse maxMessageSize faultless ⟨[], 0⟩ s .ok r visits)
    (hsum : totalSize (visits.map Visit.queue).flatten < 2 ^ 32) :
    s.currentMessageSize.toNat = totalSize (Visit.allIncluded visits) := by
  have hle := totalSize_le visits
  rw [hc.size, UInt32.zero_add]
  exact UInt32.toNat_ofNat_of_lt' (show _ < 2 ^ 32 by omega)

theorem Collected.ends_exact (hc : Collected parse maxMessageSize faultless ⟨[], 0⟩ s .ok r visits)
    (hf : faultless) (hsum : totalSize (visits.map Visit.queue).flatten < 2 ^ 32)
    {earlier later : List Visit} {v : Visit} (hsplit : visits = earlier ++ v :: later) :
    Ends parse maxMessageSize.toNat (totalSize (Visit.allIncluded (earlier ++ [v]))) v := by
  by_cases hd : v.discarded = []
  · cases hrest : v.rest with
    | nil => exact Or.inl hrest
    | cons x xs =>
        refine Or.inr (Or.inl ⟨x, xs, hrest, ?_⟩)
        have hfits := hc.ends hf earlier v later hsplit hd x (by rw [hrest]; rfl)
        -- the sum that is compared does not wrap
        have hle := totalSize_le visits
        have hall : Visit.allIncluded visits
            = Visit.allIncluded (earlier ++ [v]) ++ Visit.allIncluded later := by
          simp [hsplit, Visit.allIncluded]
        have hleft : x.dataSize.toNat ≤ totalSize (visits.flatMap Visit.rest) := by
          simp only [hsplit, List.flatMap_append, List.flatMap_cons, hrest, totalSize_append,
            totalSize_cons]
          omega
        rw [hall, totalSize_append] at hle
        rwa [UInt32.zero_add, UInt32.lt_iff_toNat_lt, UInt32.toNat_add, UInt32.toNat_ofNat',
          Nat.mod_add_mod, Nat.mod_eq_of_lt (by omega)] at hfits
  · obtain ⟨x, hx⟩ := List.exists_mem_of_ne_nil _ hd
    refine Or.inr (Or.inr ⟨v.discarded.getLast hd, ?_, ?_⟩)
    · rw [Visit.removed, List.getLast?_append, List.getLast?_eq_some_getLast hd]
      rfl
    · exact hc.unparsable hf v (by rw [hsplit]; simp) _ (List.getLast_mem hd)

end Exact

/-- **The serializer conserves events.** -/
theorem createSecurityMessage_conserves (parse : String → Option Json) (agentId : String)
    (maxMessageSize : UInt32) (queues : List (List Event))
    (hsum : totalSize queues.flatten < 2 ^ 32) :
    ∃ visits r buffer,
      createSecurityMessage parse agentId (.ok maxMessageSize) queues
          = (r, buffer, visits.map Visit.rest)
        ∧ queues = visits.map (fun v => v.removed ++ v.rest)
        ∧ (∀ v ∈ visits, v.included
            = v.removed.filter fun e => (eventValue parse e).isSome)
        ∧ buffer = (if r = .empty then none else some (messageOf agentId
            ((visits.flatMap Visit.removed).filterMap (eventValue parse))))
        ∧ (Visit.allIncluded visits ≠ [] →
            totalSize (Visit.allIncluded visits) < maxMessageSize.toNat)
        ∧ (∀ earlier v later, visits = earlier ++ v :: later →
            Ends parse maxMessageSize.toNat (totalSize (Visit.allIncluded (earlier ++ [v]))) v)
        ∧ r = resultOf parse visits := by
  obtain ⟨r, s, visits, hadd, rfl, hc⟩ :=
    addQueues_collected parse maxMessageSize (fun _ => .ok) queues 0 .ok ⟨[], 0⟩
      fun hne => UInt32.pos_iff_ne_zero.mpr hne
  have hf : ∀ j : Nat, (fun _ => VisitOutcome.ok) j = VisitOutcome.ok := fun _ => rfl
  have hparsed := hc.parsed
  have hunparsable := hc.unparsable hf
  have hr := hc.result hf
  have hsize := hc.size_exact hsum
  have hzero : s.currentMessageSize = 0 ↔ totalSize (Visit.allIncluded visits) = 0 := by
    rw [← hsize, ← UInt32.toNat_inj]
    rfl
  have hcreate := createSecurityMessage_ok agentId maxMessageSize _ hadd
    (by rw [hr]; split <;> simp)
  refine ⟨visits, resultOf parse visits, _, ?_, rfl, fun v hv => ?_, rfl, fun hne => ?_,
    fun earlier v later hsplit => hc.ends_exact hf hsum hsplit, rfl⟩
  · rw [hcreate, resultOf]
    by_cases hz : s.currentMessageSize = 0
    · rw [if_pos hz, if_pos (hzero.mp hz)]
      rfl
    · rw [if_neg hz, if_neg (fun h => hz (hzero.mpr h)), hr, hc.events,
        filterMap_allRemoved hunparsable]
      simp only [removed_unparsable_iff hparsed hunparsable]
      split <;> rfl
  · exact (filter_removed (fun e he => hparsed e (List.mem_flatMap.mpr ⟨v, hv, he⟩))
      (hunparsable v hv)).symm
  · rw [← hsize]
    exact UInt32.lt_iff_toNat_lt.mp (hc.bound (hc.room hne))

theorem createSecurityMessage_conserves_two :
    ∃ visits r buffer,
      createSecurityMessage (fun _ => some (.object [])) "agent" (.ok 10)
          [[⟨"\x7b\x7d", 2⟩], [⟨"\x7b\x7d", 2⟩]] = (r, buffer, visits.map Visit.rest)
        ∧ ([[⟨"\x7b\x7d", 2⟩], [⟨"\x7b\x7d", 2⟩]] : List (List Event))
          = visits.map (fun v => v.removed ++ v.rest)
        ∧ (∀ v ∈ visits, v.included
            = v.removed.filter fun e => (eventValue (fun _ => some (.object [])) e).isSome)
        ∧ buffer = (if r = .empty then none else some (messageOf "agent"
            ((visits.flatMap Visit.removed).filterMap (eventValue fun _ => some (.object [])))))
        ∧ (Visit.allIncluded visits ≠ [] →
            totalSize (Visit.allIncluded visits) < (10 : UInt32).toNat)
        ∧ (∀ earlier v later, visits = earlier ++ v :: later →
            Ends (fun _ => some (.object [])) (10 : UInt32).toNat
              (totalSize (Visit.allIncluded (earlier ++ [v]))) v)
        ∧ r = resultOf (fun _ => some (.object [])) visits :=
  createSecurityMessage_conserves _ "agent" 10 _ (by decide)

end MessageSerializer

end SecurityAgent
