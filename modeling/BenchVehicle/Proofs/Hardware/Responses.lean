import BenchVehicle.Hardware.UserHal

/-!
# Prepared responses

What user management answers to a message depends on the messages before it. A request is answered
with the response that was prepared last since the request before it of the same property, and with
the usual one if none was. Messages are listed from the latest back, so what earlier requests used
up lies beyond the first request in the list.
-/

namespace BenchVehicle.UserHal

/-- A message to user management. -/
inductive Message where
  /-- A set of a value. -/
  | set (v : PropertyValue)
  /-- A get. -/
  | get (request : PropertyValue)

namespace Message

/-- What a message carries. -/
def value : Message → PropertyValue
  | .set v | .get v => v

/-- The properties whose requests are answered. -/
def isAnswered (prop : Int32) : Bool :=
  [PropertyId.initialUserInfo, PropertyId.switchUser, PropertyId.createUser,
    PropertyId.userIdentificationAssociation].contains prop

/-- Whether a set only tells of a change of user. -/
def isNotice (v : PropertyValue) : Bool :=
  v.prop = PropertyId.switchUser ∧
    (v.payload.int32s[1]? = some 1 ∨ v.payload.int32s[1]? = some 5)

/-- The id of a message that is a request of a property: of a set with an id other than 0 that does
not only tell of something, or of a get of the ways a user is recognised. -/
def request? (prop : Int32) : Message → Option Int32
  | .set v =>
    if v.prop = prop ∧ isAnswered prop ∧ !isNotice v then v.payload.int32s.head?.filter (· ≠ 0)
    else none
  | .get request =>
    if request.prop = prop ∧ prop = PropertyId.userIdentificationAssociation then
      request.payload.int32s.head?
    else none

/-- The payload of a message that prepares a response of a property: of a set with id 0. -/
def preparation? (prop : Int32) : Message → Option Payload
  | .set v =>
    if v.prop = prop ∧ isAnswered prop ∧ v.payload.int32s.head? = some 0 then some v.payload
    else none
  | .get _ => none

/-- The payload that was prepared last for a property since its last request. -/
def prepared? (prop : Int32) (past : List Message) : Option Payload :=
  (past.takeWhile fun m => (m.request? prop).isNone).findSome? (preparation? prop)

/-- A request leaves nothing prepared. -/
theorem prepared?_of_request {prop id : Int32} {m : Message} (h : m.request? prop = some id)
    (past : List Message) : prepared? prop (m :: past) = none := by simp [prepared?, h]

/-- What was prepared last counts. -/
theorem prepared?_of_preparation {prop : Int32} {m : Message} {p : Payload}
    (hrequest : m.request? prop = none) (h : m.preparation? prop = some p) (past : List Message) :
    prepared? prop (m :: past) = some p := by simp [prepared?, hrequest, h]

/-- Other messages leave what was prepared. -/
theorem prepared?_of_other {prop : Int32} {m : Message} (hrequest : m.request? prop = none)
    (h : m.preparation? prop = none) (past : List Message) :
    prepared? prop (m :: past) = prepared? prop past := by simp [prepared?, hrequest, h]

/-- A request of a property carries a value of it. -/
theorem prop_of_request {prop id : Int32} {m : Message} (h : m.request? prop = some id) :
    m.value.prop = prop := by
  cases m <;> simp only [request?, Option.ite_none_right_eq_some] at h <;> exact h.1.1

/-- The id of a request comes first in its payload. -/
theorem id_of_request {prop id : Int32} {m : Message} (h : m.request? prop = some id) :
    m.value.payload.int32s.head? = some id := by
  cases m with
  | set v =>
    simp only [request?, Option.ite_none_right_eq_some, Option.filter_eq_some_iff] at h
    exact h.2.1
  | get request =>
    simp only [request?, Option.ite_none_right_eq_some] at h
    exact h.2

/-- Only of properties that are answered are there requests. -/
theorem isAnswered_of_request {prop id : Int32} {m : Message} (h : m.request? prop = some id) :
    isAnswered prop = true := by
  cases m with
  | set v =>
    simp only [request?, Option.ite_none_right_eq_some] at h
    exact h.1.2.1
  | get request =>
    simp only [request?, Option.ite_none_right_eq_some] at h
    rw [h.1.2]
    rfl

/-- A message of one property is no request of another. -/
theorem request?_of_ne {prop : Int32} {m : Message} (h : m.value.prop ≠ prop) :
    m.request? prop = none := by
  cases hrequest : m.request? prop with
  | none => rfl
  | some id => exact absurd (prop_of_request hrequest) h

/-- What prepares a response: a set of an answered property with id 0. -/
theorem preparation?_eq_some {prop : Int32} {m : Message} {p : Payload} :
    m.preparation? prop = some p ↔ ∃ v, m = .set v ∧ v.prop = prop ∧ isAnswered prop = true ∧
      v.payload.int32s.head? = some 0 ∧ v.payload = p := by
  cases m with
  | set v => simp [preparation?, and_assoc]
  | get request => simp [preparation?]

/-- A message of one property prepares no response of another. -/
theorem preparation?_of_ne {prop : Int32} {m : Message} (h : m.value.prop ≠ prop) :
    m.preparation? prop = none := by
  cases hpreparation : m.preparation? prop with
  | none => rfl
  | some p =>
    obtain ⟨v, rfl, hprop, -⟩ := preparation?_eq_some.mp hpreparation
    exact absurd hprop h

/-- No message that prepares a response is a request. -/
theorem request?_of_preparation {prop : Int32} {m : Message} {p : Payload}
    (h : m.preparation? prop = some p) : m.request? prop = none := by
  obtain ⟨v, rfl, -, -, hid, -⟩ := preparation?_eq_some.mp h
  simp [request?, hid, Option.filter]

end Message

open Message

/-- Takes a message. One that fails leaves everything as it is. -/
def take (u : UserHal) : Message → Except Failure (Option PropertyValue) × UserHal
  | .set v =>
    match u.set v with
    | .ok (response, u) => (.ok response, u)
    | .error e => (.error e, u)
  | .get request =>
    match u.get request with
    | .ok (response, u) => (.ok (some response), u)
    | .error e => (.error e, u)

/-- User management after some messages, the latest first, to a new one. -/
def after (pool : ValuePool) (clock : Clock) : List Message → UserHal
  | [] => { pool, clock }
  | m :: past => ((after pool clock past).take m).2

/-! ## What a message comes to -/

/-- What a message to user management comes to. -/
inductive Taken (u : UserHal) (m : Message) :
    Except Failure (Option PropertyValue) × UserHal → Prop where
  /-- It is a request, and answered. -/
  | answered {id : Int32} (h : m.request? m.value.prop = some id) :
      Taken u m (.ok (some (u.respond m.value id).1), (u.respond m.value id).2)
  /-- It prepares a response. -/
  | prepared (h : m.preparation? m.value.prop = some m.value.payload) :
      Taken u m (.ok none, u.prepare m.value)
  /-- It is neither. There is no response, and nothing changes. -/
  | ignored (hrequest : m.request? m.value.prop = none)
      (hpreparation : m.preparation? m.value.prop = none)
      {answer : Except Failure (Option PropertyValue)} (h : ∀ r, answer ≠ .ok (some r)) :
      Taken u m (answer, u)

/-- A notice is told by the second number of its payload. -/
theorem isSwitchNotice_eq {v : PropertyValue} (h : v.prop = PropertyId.switchUser) :
    isSwitchNotice v.payload = isNotice v := by
  unfold isSwitchNotice isNotice
  split
  · next hints => simp [h, hints]
  · next hints =>
    cases hlist : v.payload.int32s with
    | nil => simp
    | cons id rest =>
      cases rest with
      | nil => simp
      | cons kind rest => exact absurd hlist (hints id kind rest)

/-- User management answers all of its properties but the removal of users. -/
theorem isUserHal_eq {prop : Int32} (h : prop ≠ PropertyId.removeUser) :
    PropertyId.isUserHal prop = isAnswered prop := by
  simp [PropertyId.isUserHal, isAnswered, h]

/-- Properties that are answered belong to user management. -/
theorem isUserHal_of_isAnswered {prop : Int32} (h : isAnswered prop = true) :
    PropertyId.isUserHal prop = true := by
  rw [isUserHal_eq, h]
  rintro rfl
  revert h
  decide

/-- A set that carries an id. -/
theorem set_of_id (u : UserHal) {v : PropertyValue} {id : Int32}
    (hid : v.payload.int32s.head? = some id) :
    u.set v =
      if isAnswered v.prop then
        if id ≠ 0 ∧ isNotice v then .ok (none, u) else .ok (u.respondOrPrepare v id)
      else if v.prop = PropertyId.removeUser then .ok (none, u)
      else Cause.fail (.notUserHal v.prop) := by
  have hrequest : requestId v = .ok id := by rw [requestId, hid]
  unfold UserHal.set
  rw [hrequest]
  dsimp only [bind, Except.bind]
  by_cases hremove : v.prop = PropertyId.removeUser
  · have hanswered : isAnswered v.prop = false := by
      rw [hremove]
      decide
    rw [if_pos hremove, if_pos hremove, hanswered]
    rfl
  rw [if_neg hremove, if_neg hremove, isUserHal_eq hremove]
  by_cases hswitch : v.prop = PropertyId.switchUser
  · have hanswered : isAnswered v.prop = true := by
      rw [hswitch]
      decide
    rw [if_pos hswitch, isSwitchNotice_eq hswitch, if_pos hanswered]
    simp
  · have hnotice : isNotice v = false := by simp [isNotice, hswitch]
    rw [if_neg hswitch, hnotice]
    simp

/-- What a set comes to. -/
theorem taken_set (u : UserHal) (v : PropertyValue) : Taken u (.set v) (u.take (.set v)) := by
  have hprop : (Message.set v).value.prop = v.prop := rfl
  cases hid : v.payload.int32s.head? with
  | none =>
    have hset : ∃ e, u.set v = .error e := by
      unfold UserHal.set requestId
      rw [hid]
      exact ⟨_, rfl⟩
    obtain ⟨e, he⟩ := hset
    rw [take, he]
    refine .ignored ?_ ?_ nofun
    · simp [request?, hid]
    · simp [preparation?, hid]
  | some id =>
    rw [take, set_of_id u hid]
    by_cases hanswered : isAnswered v.prop
    · rw [if_pos hanswered]
      by_cases hzero : id = 0
      · subst hzero
        rw [if_neg (fun h => h.1 rfl)]
        exact .prepared (by simp [value, preparation?, hanswered, hid])
      by_cases hnotice : isNotice v
      · rw [if_pos ⟨hzero, hnotice⟩]
        refine .ignored ?_ ?_ nofun
        · simp [request?, hnotice]
        · simp [preparation?, hid, hzero]
      · rw [if_neg (fun h => hnotice h.2), respondOrPrepare, if_neg hzero]
        exact .answered (by simp [value, request?, hanswered, hnotice, hid, hzero])
    · have hignored {answer : Except Failure (Option PropertyValue)}
          (h : ∀ r, answer ≠ .ok (some r)) : Taken u (.set v) (answer, u) := by
        refine .ignored ?_ ?_ h
        · simp [request?, hprop, hanswered]
        · simp [preparation?, hprop, hanswered]
      rw [if_neg hanswered]
      by_cases hremove : v.prop = PropertyId.removeUser
      · rw [if_pos hremove]
        exact hignored nofun
      · rw [if_neg hremove]
        exact hignored nofun

/-- What a get comes to. -/
theorem taken_get (u : UserHal) (request : PropertyValue) :
    Taken u (.get request) (u.take (.get request)) := by
  let m := Message.get request
  have hignored (e : Failure) (h : m.request? m.value.prop = none) : Taken u m (.error e, u) :=
    .ignored h rfl nofun
  rw [take, UserHal.get]
  by_cases hprop : request.prop = PropertyId.userIdentificationAssociation
  · rw [if_neg (not_not_intro hprop), requestId]
    cases hid : request.payload.int32s.head? with
    | none => exact hignored _ (by simp [m, request?, hid])
    | some id => exact .answered (by simp [value, request?, hprop, hid])
  · rw [if_pos hprop]
    exact hignored _ (by simp [m, value, request?, hprop])

/-- A message is answered, prepares a response, or changes nothing. -/
theorem taken (u : UserHal) (m : Message) : Taken u m (u.take m) := by
  cases m with
  | set v => exact taken_set u v
  | get request => exact taken_get u request

/-! ## The prepared responses -/

variable {u : UserHal} {m : Message} {prop id : Int32}

/-- A response uses up what was prepared for the property of the request. -/
theorem canned_respond (u : UserHal) (request : PropertyValue) (id : Int32) :
    (u.respond request id).2.canned = u.canned.erase request.prop := rfl

/-- A preparation is kept for its own property. -/
theorem canned_prepare (u : UserHal) (response : PropertyValue) :
    (u.prepare response).canned = u.canned.insert response.prop response :=
  congrArg (u.canned.insert response.prop) (ValuePool.fst_copy u.pool response)

/-- A request of a property is answered. -/
theorem take_of_request (h : m.request? prop = some id) :
    u.take m = (.ok (some (u.respond m.value id).1), (u.respond m.value id).2) := by
  have hprop := prop_of_request h
  have hfacts := taken u m
  generalize u.take m = result at hfacts ⊢
  cases hfacts with
  | @answered id' h' =>
    obtain rfl : id' = id := Option.some.inj ((hprop ▸ h').symm.trans h)
    rfl
  | prepared h' =>
    rw [hprop] at h'
    rw [request?_of_preparation h'] at h
    cases h
  | ignored h' =>
    rw [hprop, h] at h'
    cases h'

/-- A set that is a request is answered. -/
theorem set_of_request {v : PropertyValue} (h : (Message.set v).request? prop = some id) :
    u.set v = .ok (some (u.respond v id).1, (u.respond v id).2) := by
  have htake := take_of_request (u := u) h
  rw [take] at htake
  cases hset : u.set v with
  | error e =>
    rw [hset] at htake
    cases htake
  | ok result =>
    obtain ⟨response, u'⟩ := result
    rw [hset] at htake
    cases htake
    rfl

/-- A set that is answered is a request. -/
theorem request_of_set {u' : UserHal} {v response : PropertyValue}
    (h : u.set v = .ok (some response, u')) :
    ∃ id, (Message.set v).request? v.prop = some id ∧ (response, u') = u.respond v id := by
  have hfacts : Taken u (.set v) (.ok (some response), u') := by
    have htaken := taken_set u v
    rw [take, h] at htaken
    exact htaken
  generalize hresult : (Except.ok (some response), u') = result at hfacts
  cases hfacts with
  | answered hrequest =>
    cases hresult
    exact ⟨_, hrequest, rfl⟩
  | prepared hpreparation => cases hresult
  | ignored hrequest hpreparation hanswer =>
    exact absurd (congrArg Prod.fst hresult).symm (hanswer response)

/-- What a message does to the prepared responses: a request of a property uses up its response, a
preparation puts one in its place, and all else leaves it as it is. -/
theorem get?_canned_take (u : UserHal) (m : Message) (prop : Int32) :
    (u.take m).2.canned.get? prop =
      if (m.request? prop).isSome then none
      else if (m.preparation? prop).isSome then some m.value
      else u.canned.get? prop := by
  have hfacts := taken u m
  generalize u.take m = result at hfacts ⊢
  by_cases hprop : m.value.prop = prop
  · subst hprop
    cases hfacts with
    | answered h => simp [h, canned_respond, SortedMap.get?_erase]
    | prepared h =>
      simp [request?_of_preparation h, h, canned_prepare, SortedMap.get?_insert]
    | ignored hrequest hpreparation => simp [hrequest, hpreparation]
  · rw [request?_of_ne hprop, preparation?_of_ne hprop]
    cases hfacts with
    | answered h => simp [canned_respond, SortedMap.get?_erase, Ne.symm hprop]
    | prepared h => simp [canned_prepare, SortedMap.get?_insert, Ne.symm hprop]
    | ignored => simp

/-- That responses are prepared for their own properties, by messages with id 0. -/
def PreparesOwn (u : UserHal) : Prop :=
  ∀ prop v, u.canned.get? prop = some v → v.prop = prop ∧ v.payload.int32s.head? = some 0

/-- At first nothing is prepared. -/
theorem preparesOwn_new (pool : ValuePool) (clock : Clock) : PreparesOwn { pool, clock } :=
  fun _ _ h => nomatch h

/-- Every message leaves responses prepared for their own properties. -/
theorem PreparesOwn.take (h : u.PreparesOwn) (m : Message) : (u.take m).2.PreparesOwn := by
  intro prop v hv
  rw [get?_canned_take] at hv
  split at hv
  · cases hv
  split at hv
  · next hpreparation =>
    obtain ⟨p, hp⟩ := Option.isSome_iff_exists.mp hpreparation
    obtain ⟨w, rfl, hprop, -, hid, -⟩ := preparation?_eq_some.mp hp
    cases hv
    exact ⟨hprop, hid⟩
  · exact h prop v hv

/-- A set leaves responses prepared for their own properties. -/
theorem PreparesOwn.set {u' : UserHal} {v : PropertyValue} {response : Option PropertyValue}
    (h : u.PreparesOwn) (hset : u.set v = .ok (response, u')) : u'.PreparesOwn := by
  have htake := h.take (.set v)
  rw [UserHal.take, hset] at htake
  exact htake

/-- A get leaves responses prepared for their own properties. -/
theorem PreparesOwn.get {u' : UserHal} {request response : PropertyValue} (h : u.PreparesOwn)
    (hget : u.get request = .ok (response, u')) : u'.PreparesOwn := by
  have htake := h.take (.get request)
  rw [UserHal.take, hget] at htake
  exact htake

/-- User management that has prepared what its past says. -/
structure Recalls (past : List Message) (u : UserHal) : Prop where
  /-- The prepared payloads are those of the past. -/
  payload : ∀ prop, (u.canned.get? prop).map PropertyValue.payload = prepared? prop past
  /-- Each is prepared for its own property. -/
  own : u.PreparesOwn

/-- What is prepared after a message is what the past says with the message. -/
theorem Recalls.take {past : List Message} (h : Recalls past u) (m : Message) :
    Recalls (m :: past) (u.take m).2 := by
  refine ⟨fun prop => ?_, h.own.take m⟩
  rw [get?_canned_take]
  cases hrequest : m.request? prop with
  | some id => rw [prepared?_of_request hrequest]; rfl
  | none =>
    cases hpreparation : m.preparation? prop with
    | some p =>
      obtain ⟨v, rfl, -, -, -, hpayload⟩ := preparation?_eq_some.mp hpreparation
      rw [prepared?_of_preparation hrequest hpreparation]
      exact congrArg some hpayload
    | none =>
      rw [prepared?_of_other hrequest hpreparation]
      exact h.payload prop

/-- After any messages user management has prepared what they say. -/
theorem recalls_after (pool : ValuePool) (clock : Clock) (past : List Message) :
    Recalls past (after pool clock past) := by
  induction past with
  | nil => exact ⟨fun _ => rfl, preparesOwn_new pool clock⟩
  | cons m past ih => exact ih.take m

/-! ## Answers -/

/-- A response repeats the id of its request, in place of the first integer of what was prepared. -/
structure Response (request : PropertyValue) (id : Int32) (prepared : Option Payload)
    (r : PropertyValue) : Prop where
  /-- It belongs to the property of the request. -/
  prop : r.prop = request.prop
  /-- It is global. -/
  area : r.area = 0
  /-- It can be trusted. -/
  status : r.status = .available
  /-- It begins with the id. -/
  first : r.payload.int32s.head? = some id
  /-- The rest is as it was prepared, or as usual. -/
  payload : r.payload =
    let p := prepared.getD (usualPayload request.prop request.payload id)
    { p with int32s := p.int32s.set 0 id }

/-- The first number of a list that is not empty is replaced. -/
theorem withFirst_eq {ids : List Int32} (id : Int32) (h : ids ≠ []) :
    withFirst id ids = ids.set 0 id := by
  cases ids with
  | nil => exact absurd rfl h
  | cons first rest => rfl

/-- The usual response begins with the id of the request. -/
theorem head?_usualPayload {prop id : Int32} {request : Payload}
    (h : request.int32s.head? = some id) :
    (usualPayload prop request id).int32s.head? = some id := by
  unfold usualPayload
  split
  · rfl
  split
  · rfl
  split
  · rfl
  · exact h

/-- A request is answered with what was prepared for its property, or as usual. -/
theorem response_respond (hown : u.PreparesOwn) {request : PropertyValue} {id : Int32}
    (hid : request.payload.int32s.head? = some id) :
    Response request id ((u.canned.get? request.prop).map PropertyValue.payload)
      (u.respond request id).1 := by
  have hne {ids : List Int32} {first : Int32} (h : ids.head? = some first) : ids ≠ [] := by
    rintro rfl
    cases h
  have hset {ids : List Int32} (h : ids ≠ []) : (withFirst id ids).head? = some id := by
    cases ids <;> rfl
  unfold respond
  cases hcanned : u.canned.get? request.prop with
  | some v =>
    obtain ⟨hprop, hfirst⟩ := hown request.prop v hcanned
    refine ⟨hprop, rfl, rfl, hset (hne hfirst), ?_⟩
    dsimp only [Option.map_some, Option.getD_some]
    rw [withFirst_eq id (hne hfirst)]
  | none =>
    have husual : (usualPayload request.prop request.payload id).int32s.head? = some id :=
      head?_usualPayload hid
    refine ⟨?_, rfl, rfl, hset (hne husual), ?_⟩
    · dsimp only
      rw [ValuePool.fst_obtain]
      rfl
    · dsimp only [Option.map_none, Option.getD_none]
      rw [withFirst_eq id (hne husual)]

/-- Whatever messages came before, a request is answered with the response that was prepared last for
its property since its last request, or with the usual one. Only requests of a property and messages
that prepare its response change what is prepared for it. -/
theorem answers_of_messages (pool : ValuePool) (clock : Clock) (past : List Message) :
    let u := after pool clock past
    (∀ m prop id, m.request? prop = some id →
      ∃ r, (u.take m).1 = .ok (some r) ∧ Response m.value id (prepared? prop past) r) ∧
    (∀ prop, (u.canned.get? prop).map PropertyValue.payload = prepared? prop past) ∧
    ∀ m prop, m.request? prop = none → m.preparation? prop = none →
      (u.take m).2.canned.get? prop = u.canned.get? prop := by
  intro u
  have hrecalls : Recalls past u := recalls_after pool clock past
  refine ⟨fun m prop id hrequest => ?_, hrecalls.payload, fun m prop hrequest hpreparation => ?_⟩
  · have hprop : m.value.prop = prop := prop_of_request hrequest
    refine ⟨(u.respond m.value id).1, by rw [take_of_request hrequest], ?_⟩
    rw [← hrecalls.payload prop, ← hprop]
    exact response_respond hrecalls.own (id_of_request hrequest)
  · rw [get?_canned_take, hrequest, hpreparation]
    simp

/-- A response to the creation of a user is prepared. The first request after it gets that response,
and the second one the usual response. -/
theorem answers_of_prepared_creation :
    let creation (ids : List Int32) : Message :=
      .set { prop := PropertyId.createUser, payload := { int32s := ids } }
    let preparation := creation [0, 99]
    let request (id : Int32) := creation [id]
    (∃ r, ((after {} (.ticking 2000000) [preparation]).take (request 21)).1 = .ok (some r) ∧
        r.payload.int32s = [21, 99]) ∧
      ∃ r, ((after {} (.ticking 2000000) [request 21, preparation]).take (request 22)).1 =
          .ok (some r) ∧ r.payload.int32s = [22, 1] := by
  intro creation preparation request
  obtain ⟨hfirst, -⟩ := answers_of_messages {} (.ticking 2000000) [preparation]
  obtain ⟨hsecond, -⟩ := answers_of_messages {} (.ticking 2000000) [request 21, preparation]
  obtain ⟨r, hr, hresponse⟩ := hfirst (request 21) PropertyId.createUser 21 rfl
  obtain ⟨r', hr', hresponse'⟩ := hsecond (request 22) PropertyId.createUser 22 rfl
  exact ⟨⟨r, hr, congrArg Payload.int32s hresponse.payload⟩,
    r', hr', congrArg Payload.int32s hresponse'.payload⟩

end BenchVehicle.UserHal
