import QueryDesk.Proofs.Steps
import QueryDesk.Proofs.Text.Hex
import QueryDesk.Proofs.Text.Trim
import QueryDesk.Service.Api

/-!
# Traced answers

No endpoint, no route and no permission answers with an id of the request or says whether the answer
may be stored. All of this is added to every answer at the end, once: the id that the request
brings, if it is short and plain, and a new one otherwise.
-/

namespace QueryDesk

namespace Http

/-! ## Ids -/

/-- A text that may name a request: from 1 to 128 ASCII letters, digits, points, underscores and
    hyphens. -/
structure IsIdText (id : String) : Prop where
  nonempty : 1 ≤ id.length
  short : id.length ≤ 128
  plain : ∀ c ∈ id.toList, c.isAlphanum = true ∨ c ∈ ['.', '_', '-']

/-- The values of the headers of a name, in order. -/
def headerValues (headers : Headers) (name : String) : List String :=
  (headers.filter (sameName ·.1 name)).map (·.2)

namespace RequestId

variable {id : String} {c : Char}

/-- What a request brings as its id, without the blanks around it; nothing counts as the empty
    text. -/
def brought (r : Request) : String :=
  Text.strip ((r.header? "X-Request-ID").getD "")

theorem isAlphanum_iff : c.isAlphanum = true ↔
    (48 ≤ c.toNat ∧ c.toNat ≤ 57) ∨ (65 ≤ c.toNat ∧ c.toNat ≤ 90) ∨
      (97 ≤ c.toNat ∧ c.toNat ≤ 122) := by
  have classes : c.isAlphanum = ((decide (65 ≤ c.val ∧ c.val ≤ 90) ||
      (decide (97 ≤ c.val) && decide (c.val ≤ 122))) ||
        (decide (48 ≤ c.val) && decide (c.val ≤ 57))) := rfl
  rw [classes]
  simp only [Bool.or_eq_true, Bool.and_eq_true, decide_eq_true_eq, UInt32.le_iff_toNat_le,
    UInt32.reduceToNat, Char.toNat_val]
  omega

theorem isPlain_iff : isPlain c = true ↔ c.isAlphanum = true ∨ c ∈ ['.', '_', '-'] := by
  rw [isAlphanum_iff]
  simp only [isPlain, Text.isAsciiDigit, Bool.or_eq_true, Bool.and_eq_true, decide_eq_true_eq,
    beq_iff_eq, List.mem_cons, List.not_mem_nil, or_false, or_assoc]

theorem isId_iff : isId id.toList = true ↔ IsIdText id := by
  simp only [isId, Bool.and_eq_true, decide_eq_true_eq, List.all_eq_true, isPlain_iff,
    String.length_toList]
  exact ⟨fun ⟨⟨nonempty, short⟩, plain⟩ => ⟨nonempty, short, plain⟩,
    fun ⟨nonempty, short, plain⟩ => ⟨⟨nonempty, short⟩, plain⟩⟩

instance (id : String) : Decidable (IsIdText id) :=
  decidable_of_iff _ isId_iff

/-- The digits of a new id are plain. -/
theorem isIdText_fresh (drawn : Uuid) : IsIdText (fresh drawn) where
  nonempty := by simp [fresh, Uuid.hex]
  short := by simp [fresh, Uuid.hex]
  plain := by
    intro c mem
    rw [fresh, String.toList_ofList] at mem
    have code := Text.toNat_of_mem_hexDigits mem
    refine .inl (isAlphanum_iff.mpr ?_)
    omega

/-- A request keeps the id that it brings if this is one. -/
theorem ofRequest_eq (r : Request) (drawn : Uuid) :
    ofRequest r drawn = if IsIdText (brought r) then brought r else fresh drawn := by
  have same : isId (Text.trim ((r.header? headerName).getD "").toList) = true ↔
      IsIdText (brought r) := by
    rw [← isId_iff, brought, Text.toList_strip]
    rfl
  rw [ofRequest, kept?]
  by_cases kept : IsIdText (brought r)
  · rw [if_pos (same.mpr kept), if_pos kept]
    rfl
  · rw [if_neg (mt same.mp kept), if_neg kept]
    rfl

theorem isIdText_ofRequest (r : Request) (drawn : Uuid) : IsIdText (ofRequest r drawn) := by
  rw [ofRequest_eq]
  split
  · assumption
  · exact isIdText_fresh drawn

end RequestId

/-! ## Headers before tracing -/

/-- The names of the headers that an answer may have before it is traced. -/
def untracedNames : List String :=
  ["allow", "location", "vary", "access-control-allow-origin", "access-control-allow-credentials",
    "access-control-allow-methods", "access-control-allow-headers", "access-control-max-age"]

/-- The answer, if there is one, has none but the headers of these names. -/
def Untraced (answer : Answer) : Prop :=
  ∀ response, answer = .ok response → ∀ header ∈ response.headers, header.1 ∈ untracedNames

theorem untraced_of_bare {answer : Answer}
    (bare : ∀ response, answer = .ok response → response.headers = []) : Untraced answer := by
  intro response answered header mem
  rw [bare response answered] at mem
  cases mem

theorem untraced_error (crash : Crash) : Untraced (.error crash) :=
  fun _ answered => nomatch answered

theorem untraced_detail (status : Nat) (text : String) : Untraced (.ok (detail status text)) :=
  untraced_of_bare fun _ answered => by cases answered; rfl

theorem untraced_json (v : Value) : Untraced (Answer.json v) := by
  unfold Answer.json
  split
  · exact untraced_of_bare fun _ answered => by cases answered; rfl
  · exact untraced_error _

theorem untraced_refusal (fault : Payload.Fault) : Untraced (Answer.refusal fault) := by
  cases fault with
  | issues found =>
    rw [Answer.refusal]
    split
    · exact untraced_of_bare fun _ answered => by cases answered; rfl
    · exact untraced_error _
  | unreadable => exact untraced_detail _ _

theorem headersFor_untraced (origins : List String) (r : Request) (origin : String) :
    ∀ header ∈ Cors.headersFor origins r origin, header.1 ∈ untracedNames := by
  unfold Cors.headersFor
  repeat' split
  all_goals simp [untracedNames, Cors.originHeader, Cors.credentials, Cors.varying]

theorem permissionHeaders_untraced (origins : List String) (r : Request) (origin : String) :
    ∀ header ∈ Cors.permissionHeaders origins r origin, header.1 ∈ untracedNames := by
  unfold Cors.permissionHeaders
  refine List.forall_mem_append.mpr ⟨List.forall_mem_append.mpr ⟨?_, ?_⟩, ?_⟩
  · simp [untracedNames, Cors.credentials, Cors.varying]
  · split <;> simp [untracedNames, Cors.originHeader]
  · intro header asked
    obtain ⟨names, -, rfl⟩ := Option.map_eq_some_iff.mp (Option.mem_toList.mp asked)
    simp [untracedNames]

theorem Cors.permission_untraced (origins : List String) (r : Request) (origin method : String) :
    Untraced (.ok (permission origins r origin method)) := by
  rintro _ ⟨⟩
  unfold permission
  dsimp only
  split <;> exact permissionHeaders_untraced origins r origin

theorem Cors.allow_untraced {answer : Answer} (untraced : Untraced answer)
    (origins : List String) (r : Request) : Untraced (answer.map (allow origins r)) := by
  intro response answered header mem
  obtain ⟨own, gave, rfl⟩ := map_eq_ok_iff.mp answered
  unfold allow at mem
  split at mem
  · exact untraced own gave header mem
  · rcases List.mem_append.mp mem with earlier | added
    · exact untraced own gave header earlier
    · exact headersFor_untraced origins r _ header added

theorem undirected_untraced {α : Type} (r : Request) (destination : Destination α) :
    Untraced (.ok (undirected r destination)) := by
  rintro _ ⟨⟩ header mem
  cases destination with
  | otherMethod allowed =>
    obtain rfl := List.mem_singleton.mp mem
    simp [untracedNames]
  | elsewhere path =>
    obtain rfl := List.mem_singleton.mp mem
    simp [untracedNames]
  | target | nowhere => cases mem

end Http

/-! ## Answers of the service -/

namespace Service

open Http

variable (s : Service) (draw : Draw) (r : Request)

theorem list_untraced (resource : Resource) : Untraced (s.list resource r) := by
  unfold list
  split
  · exact untraced_json _
  · exact untraced_error _

theorem unsent_untraced (fault : Otp.SendFault) : Untraced (unsent fault) := by
  unfold unsent
  split
  · exact untraced_detail _ _
  · exact untraced_detail _ _
  all_goals exact untraced_error _

theorem judged_untraced (key : OtpKey) (verdict : Otp.Verdict) :
    Untraced (s.judged key verdict) := by
  cases verdict with
  | accepted =>
    rw [judged, tokenAnswer]
    split
    · exact untraced_json _
    · exact untraced_error _
  | unlimited | tooLong => exact untraced_error _
  | _ => exact untraced_detail _ _

theorem sendCode_untraced (request : CodeRequest) : Untraced (s.sendCode draw request).1 := by
  unfold sendCode
  split
  · dsimp only
    exact untraced_json _
  · exact unsent_untraced _

theorem checkCode_untraced (check : CodeCheck) : Untraced (s.checkCode check).1 := by
  rw [checkCode]
  cases OtpKey.ofTexts check.purpose check.email with
  | error fault => exact untraced_detail 400 fault.message
  | ok key => exact judged_untraced s key _

theorem withPayload_untraced {α : Type} {fields : Members → Validated α} {handle : α → Handled}
    (handles : ∀ a, Untraced (handle a).1) : Untraced (s.withPayload r fields handle).1 := by
  unfold withPayload
  split
  · exact handles _
  · exact untraced_refusal _

theorem answer_untraced (endpoint : Endpoint) : Untraced (s.answer draw r endpoint).1 := by
  cases endpoint with
  | users => exact list_untraced s r _
  | posts => exact list_untraced s r _
  | sendCode => exact withPayload_untraced s r (sendCode_untraced s draw)
  | checkCode => exact withPayload_untraced s r (checkCode_untraced s)
  | landing =>
    exact untraced_json
      (.object [("service", s.settings.get .appName), ("status", .text "ok")])
  | health => exact untraced_json (.object [("status", .text "ok")])
  | manual page => exact untraced_of_bare fun _ answered => by cases answered; rfl

theorem direct_untraced : Untraced (s.direct draw r).1 := by
  unfold direct
  split
  · exact answer_untraced s draw r _
  · exact undirected_untraced r _

/-- Up to tracing, no answer names its request or says whether it may be stored. -/
theorem receive_untraced : Untraced (s.receive draw r).1 := by
  unfold receive
  split
  · exact Cors.permission_untraced s.origins r _ _
  · exact Cors.allow_untraced (direct_untraced s draw r) s.origins r

variable {s draw r}

/-- Of a name that comes with tracing only, a traced answer has the values of tracing. -/
theorem headerValues_handle {response : Response} (answered : (s.handle draw r).1 = .ok response)
    {name : String} (own : ∀ other ∈ untracedNames, sameName other name = false) :
    headerValues response.headers name =
      (if sameName "cache-control" name then ["no-store"] else []) ++
        if sameName "x-request-id" name then [RequestId.ofRequest r draw.requestId] else [] := by
  obtain ⟨inner, received, rfl⟩ := map_eq_ok_iff.mp answered
  have none : inner.headers.filter (sameName ·.1 name) = [] := by
    rw [List.filter_eq_nil_iff]
    intro header mem
    simp [own _ (receive_untraced s draw r inner received header mem)]
  rw [headerValues, RequestId.trace, Response.with, List.filter_append, none, List.nil_append,
    List.filter_cons, List.filter_cons]
  split <;> split <;> rfl

/-- Every answer, to whatever request, says once that it must not be stored, and names its request
    once: by the text that the request brings, just if this is one that may name a request, and
    otherwise by a new id. -/
theorem answered_traced {response : Response} (answered : (s.handle draw r).1 = .ok response) :
    headerValues response.headers "Cache-Control" = ["no-store"] ∧
    ∃ id, headerValues response.headers "X-Request-ID" = [id] ∧ IsIdText id ∧
      (id = RequestId.brought r ↔ IsIdText (RequestId.brought r)) ∧
      (¬ IsIdText (RequestId.brought r) → id = RequestId.fresh draw.requestId) := by
  have named := RequestId.isIdText_ofRequest r draw.requestId
  refine ⟨?_, RequestId.ofRequest r draw.requestId, ?_, named, ⟨fun same => same ▸ named, ?_⟩, ?_⟩
  · rw [headerValues_handle answered (by decide), if_pos (by decide), if_neg (by decide)]
    rfl
  · rw [headerValues_handle answered (by decide), if_neg (by decide), if_pos (by decide)]
    rfl
  · intro brought
    rw [RequestId.ofRequest_eq, if_pos brought]
  · intro unnamed
    rw [RequestId.ofRequest_eq, if_neg unnamed]

/-- A service that started with the defaults, without any data. -/
def idle : Service :=
  (start? (Settings.defaults "sqlite://") ⟨0, some 0⟩).get rfl

/-- A page of a foreign origin asks for permission and tries to add a line to the log. -/
def foreignAsk : Request where
  method := "OPTIONS"
  path := "/api/otp/send"
  headers := [("Origin", "http://elsewhere"), ("Access-Control-Request-Method", "POST"),
    ("x-request-id", "7\nGET /health")]

/-- A request for a page that is not there, with blanks around its id. -/
def strayRequest : Request where
  method := "GET"
  path := "/nowhere"
  headers := [("X-REQUEST-ID", " Req-7._x\t"), ("X-Request-ID", "other")]

def idleDraw : Draw := ⟨⟨42⟩, ⟨43⟩, "123456"⟩

/-- A refused permission has a new id, and a page that is not there keeps the id of its request. -/
theorem refused_and_stray_traced :
    (∃ response, (idle.handle idleDraw foreignAsk).1 = .ok response ∧ response.status = 400 ∧
      headerValues response.headers "Cache-Control" = ["no-store"] ∧
      headerValues response.headers "X-Request-ID" = ["0000000000000000000000000000002a"]) ∧
    ∃ response, (idle.handle idleDraw strayRequest).1 = .ok response ∧ response.status = 404 ∧
      headerValues response.headers "Cache-Control" = ["no-store"] ∧
      headerValues response.headers "X-Request-ID" = ["Req-7._x"] := by
  have refused : (idle.handle idleDraw foreignAsk).1.toOption.map (·.status) = some 400 := by
    decide +kernel
  have stray : (idle.handle idleDraw strayRequest).1.toOption.map (·.status) = some 404 := by
    decide +kernel
  obtain ⟨response, answered, status⟩ := toOption_map_eq_some_iff.mp refused
  obtain ⟨response', answered', status'⟩ := toOption_map_eq_some_iff.mp stray
  obtain ⟨once, id, named, -, -, new⟩ := answered_traced answered
  obtain ⟨once', id', named', -, kept, -⟩ := answered_traced answered'
  have foreign : ¬ IsIdText (RequestId.brought foreignAsk) := by decide +kernel
  have own : IsIdText (RequestId.brought strayRequest) := by decide +kernel
  refine ⟨⟨response, answered, status, once, ?_⟩, response', answered', status', once', ?_⟩
  · rw [named, new foreign]
    decide +kernel
  · rw [named', kept.mpr own]
    decide +kernel

end Service

end QueryDesk
