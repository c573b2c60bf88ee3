import CodeIndex.Proofs.Json.RoundTrip
import CodeIndex.Proofs.Provider.Throttle
import CodeIndex.Provider.Hosted
import Mathlib.Data.List.Forall2

/-!
# Vectors from a hosted provider

A hosted provider may hand vectors over in any order, and each says to which text it belongs; or it
says nothing, and hands them over in the order of the texts.  Sorting by place, with the first place
for those that do not say, serves both: if the places are those of the texts the sorted places are
`0, 1, 2, …`, and if all are the first place a stable sort moves nothing.

What makes a vector the one of a text is up to the provider.  `HostedService.IsHonest` says what is
agreed with it, for any relation of texts and vectors, and only about answers that came back; the
vectors that are handed on are then related to the texts one by one.

## Main definitions

* `HostedService.IsOrdering`: what putting vectors in order comes to.
* `HostedService.Holds`: which values an answer holds.
* `HostedService.IsHonest`

## Main statements

* `HostedService.inOrder_isOrdering`
* `HostedService.vectorsOf_of_holds`, `HostedService.holds_of_vectorsOf`: vectors are those of the
  values of an answer.
* `HostedService.exists_of_embedBatch`: vectors come from an answer that came back.
* `HostedService.forall₂_of_embedBatch`: if the provider is honest, each text has its vector.
-/

namespace CodeIndex

/-- What comes of a list comes of its items one by one. -/
theorem forall₂_of_mapM_eq_ok {ε α β : Type} {f : α → Except ε β} {list : List α} {results : List β}
    (success : list.mapM f = .ok results) : List.Forall₂ (fun a b => f a = .ok b) list results := by
  induction list generalizing results with
  | nil =>
      cases success
      exact .nil
  | cons a list ih =>
      rw [List.mapM_cons] at success
      obtain ⟨b, first, success⟩ := bind_eq_ok_iff.1 success
      obtain ⟨rest, others, success⟩ := bind_eq_ok_iff.1 success
      cases success
      exact .cons first (ih others)

namespace HostedService

/-! ## The order of vectors -/

variable {sent : Nat} {items : List PlacedVector} {vectors : List (List Float32)}

/-- **What putting vectors in order comes to,** for so many texts. -/
structure IsOrdering (sent : Nat) (items : List PlacedVector)
    (result : Except ProviderError (List (List Float32))) : Prop where
  /-- It fails if there are too many or too few vectors, and for no other reason. -/
  error_iff : (∃ e, result = .error e) ↔ items.length ≠ sent
  error_eq : ∀ e, result = .error e → e = .batchMismatch sent items.length
  length_eq : ∀ vectors, result = .ok vectors → vectors.length = sent
  /-- If every text has its vector, each comes to the place of its text. -/
  placed : (items.map (·.place)).Perm (List.range sent) → ∃ vectors, result = .ok vectors ∧
    ∀ item ∈ items, vectors[item.place]? = some item.vector
  /-- If no vector says where it belongs, they stay as they came. -/
  arrival : items.length = sent → (∀ item ∈ items, item.place = 0) →
    result = .ok (items.map (·.vector))

/-- The vectors in the order of their places. -/
def sorted (items : List PlacedVector) : List PlacedVector :=
  items.mergeSort fun a b => a.place ≤ b.place

theorem sorted_perm (items : List PlacedVector) : (sorted items).Perm items :=
  List.mergeSort_perm ..

theorem pairwise_sorted (items : List PlacedVector) :
    ((sorted items).map (·.place)).Pairwise (· ≤ ·) := by
  have order : (sorted items).Pairwise fun a b => decide (a.place ≤ b.place) = true :=
    List.pairwise_mergeSort (fun a b c => by simpa using Nat.le_trans)
      (fun a b => by simpa using Nat.le_total _ _) items
  exact List.pairwise_map.2 (order.imp of_decide_eq_true)

/-- If the places are those of so many texts, each vector comes to its place. -/
theorem getElem?_sorted (placed : (items.map (·.place)).Perm (List.range sent))
    {item : PlacedVector} (member : item ∈ items) : (sorted items)[item.place]? = some item := by
  have places : (sorted items).map (·.place) = List.range sent :=
    List.Perm.eq_of_pairwise (fun _ _ _ _ => Nat.le_antisymm) (pairwise_sorted items)
      List.pairwise_le_range (((sorted_perm items).map _).trans placed)
  obtain ⟨position, below, rfl⟩ := List.mem_iff_getElem.1 ((sorted_perm items).mem_iff.2 member)
  -- the place that stands at a position is the position
  have length : (sorted items).length = sent := by simpa using congrArg List.length places
  have here : ((sorted items).map (·.place))[position]? = some position := by
    rw [places]
    exact List.getElem?_range (length ▸ below)
  rw [List.getElem?_map, List.getElem?_eq_getElem below] at here
  have same : (sorted items)[position].place = position := Option.some.inj here
  rw [same, List.getElem?_eq_getElem below]

/-- Vectors that all belong to one place stay as they came. -/
theorem sorted_eq_self (one : ∀ item ∈ items, item.place = 0) : sorted items = items := by
  refine List.mergeSort_of_pairwise (List.pairwise_of_forall_mem_list fun a member b member' => ?_)
  rw [one a member, one b member']
  rfl

theorem inOrder_of_length_eq (complete : items.length = sent) :
    inOrder sent items = .ok ((sorted items).map (·.vector)) :=
  if_pos complete

theorem inOrder_of_length_ne (incomplete : items.length ≠ sent) :
    inOrder sent items = .error (.batchMismatch sent items.length) :=
  if_neg incomplete

/-- **Vectors are put in order.** -/
theorem inOrder_isOrdering (sent : Nat) (items : List PlacedVector) :
    IsOrdering sent items (inOrder sent items) where
  error_iff := by
    by_cases complete : items.length = sent
    · simp [inOrder_of_length_eq complete, complete]
    · simp [inOrder_of_length_ne complete, complete]
  error_eq e failed := by
    by_cases complete : items.length = sent
    · rw [inOrder_of_length_eq complete] at failed
      cases failed
    · rw [inOrder_of_length_ne complete] at failed
      exact (Except.error.inj failed).symm
  length_eq vectors success := by
    by_cases complete : items.length = sent
    · rw [inOrder_of_length_eq complete] at success
      cases success
      rw [List.length_map, (sorted_perm items).length_eq, complete]
    · rw [inOrder_of_length_ne complete] at success
      cases success
  placed perm := by
    have complete : items.length = sent := by simpa using perm.length_eq
    refine ⟨_, inOrder_of_length_eq complete, fun item member => ?_⟩
    rw [List.getElem?_map, getElem?_sorted perm member]
    rfl
  arrival complete one := by rw [inOrder_of_length_eq complete, sorted_eq_self one]

/-! ## Answers -/

/-- The placed vectors in a value that was read. -/
def itemsOf (value : Json) : Except DecodeError (List PlacedVector) := do
  let list ← required "data" value
  Json.decodeList decodeVector list

/-- **Whether an answer holds a list of values** that are read as placed vectors. -/
structure Holds (body : String) (values : List Json) (items : List PlacedVector) : Prop where
  data : ∃ value, Json.parse? body.toList = some value ∧ value.field? "data" = some (.array values)
  decoded : values.mapM decodeVector = .ok items

theorem vectorsOf_of_parsed {body : String} {value : Json}
    (parsed : Json.parse? body.toList = some value) (sent : Nat) : vectorsOf sent body =
      match itemsOf value with
      | .error e => .error (.json e.message)
      | .ok items => inOrder sent items := by
  have found : read body = .ok value := by rw [read, parsed]
  unfold vectorsOf
  rw [found]
  rfl

theorem itemsOf_eq_ok_iff {value : Json} : itemsOf value = .ok items ↔ ∃ values,
    value.field? "data" = some (.array values) ∧ values.mapM decodeVector = .ok items := by
  unfold itemsOf required
  cases found : value.field? "data" with
  | none => simp [bind, Except.bind]
  | some list =>
      cases list <;> simp [Json.decodeList, bind, Except.bind]

theorem vectorsOf_of_holds {body : String} {values : List Json} (holds : Holds body values items)
    (sent : Nat) : vectorsOf sent body = inOrder sent items := by
  obtain ⟨⟨value, parsed, data⟩, decoded⟩ := holds
  rw [vectorsOf_of_parsed parsed, itemsOf_eq_ok_iff.2 ⟨values, data, decoded⟩]

/-- Vectors come from an answer that holds them. -/
theorem holds_of_vectorsOf {body : String} (success : vectorsOf sent body = .ok vectors) :
    ∃ values items, Holds body values items ∧ inOrder sent items = .ok vectors := by
  cases parsed : Json.parse? body.toList with
  | none =>
      have failed : read body = .error (.json "not a value") := by rw [read, parsed]
      unfold vectorsOf at success
      rw [failed] at success
      cases success
  | some value =>
      rw [vectorsOf_of_parsed parsed] at success
      cases found : itemsOf value with
      | error e =>
          rw [found] at success
          cases success
      | ok items =>
          rw [found] at success
          obtain ⟨values, data, decoded⟩ := itemsOf_eq_ok_iff.1 found
          exact ⟨values, items, ⟨⟨value, parsed, data⟩, decoded⟩, success⟩

/-- **Which place a value is read with:** the one that it says, or the first one. -/
theorem place_of_decodeVector {value : Json} {item : PlacedVector}
    (decoded : decodeVector value = .ok item) :
    (value.field? "index" = none → item.place = 0) ∧
      ∀ place : Nat, value.field? "index" = some (.nat place) → item.place = place := by
  obtain ⟨place, said, decoded⟩ := bind_eq_ok_iff.1 decoded
  obtain ⟨list, -, decoded⟩ := bind_eq_ok_iff.1 decoded
  obtain ⟨components, -, decoded⟩ := bind_eq_ok_iff.1 decoded
  cases decoded
  constructor
  · intro silent
    rw [silent] at said
    exact (Except.ok.inj said).symm
  · intro place' index
    rw [index, Option.map_some, Option.getD_some, Json.nat, Json.decodeCount,
      if_pos (Int.natCast_nonneg _)] at said
    exact (Except.ok.inj said).symm

/-- Vectors that do not say where they belong count as belonging to the first text. -/
theorem place_eq_zero_of_silent {values : List Json}
    (decoded : values.mapM decodeVector = .ok items)
    (silent : ∀ value ∈ values, value.field? "index" = none) : ∀ item ∈ items, item.place = 0 := by
  have each := forall₂_of_mapM_eq_ok decoded
  clear decoded
  induction each with
  | nil =>
      intro item member
      cases member
  | cons first _ ih =>
      rw [List.forall_mem_cons] at silent ⊢
      exact ⟨(place_of_decodeVector first).1 silent.1, ih silent.2⟩

end HostedService

/-! ## Requests -/

/-- An answer that is let through is one that came back. -/
theorem ThrottlePolicy.exists_of_attemptFrom {σ ρ : Type} {policy : ThrottlePolicy}
    {classify : ρ → Throttle.Verdict} {request : Request σ (Except ProviderError ρ)}
    {further number : Nat} {before after : Clocked σ} {response : ρ}
    (run : (policy.attemptFrom classify request further number).run before =
      (.ok response, after)) : ∃ now state, (request now state).result = .ok response := by
  induction further generalizing number before with
  | zero =>
      rw [run_attemptFrom] at run
      rcases made : request.run before with ⟨e | answer, middle⟩ <;> rw [made] at run
      · cases run
      · dsimp only at run
        split at run
        · cases run
          exact ⟨_, _, congrArg Prod.fst made⟩
        · cases run
  | succ further ih =>
      rw [run_attemptFrom] at run
      rcases made : request.run before with ⟨e | answer, middle⟩ <;> rw [made] at run
      · cases run
      · dsimp only at run
        split at run
        · cases run
          exact ⟨_, _, congrArg Prod.fst made⟩
        · exact ih run

namespace HostedService

variable {σ : Type} {service : HostedService} {carry : Carrier σ}

/-- The text of an answer is that of one that came back. -/
theorem exists_of_post {endpoint : String} {body : Json} {now : Nat} {state : σ} {text : String}
    (success : (service.post carry endpoint body now state).result = .ok text) :
    ∃ now state reply, (carry (service.message endpoint body) now state).result = .ok reply ∧
      reply.isSuccess = true ∧ reply.body = text := by
  let sent : Request σ (Except ProviderError Reply) :=
    (carry (service.message endpoint body)).map fun result => result.mapError .http
  let persisted := ThrottlePolicy.standard.persist
    (fun reply => Throttle.classify reply.status reply.retryAfter) sent
  let textOf (reply : Reply) : Except ProviderError String :=
    if reply.isSuccess then .ok reply.body
    else .error (.other ("OpenAI " ++ endpoint ++ " request failed (status " ++
      statusText reply.status ++ ")"))
  have whole : (persisted now state).result >>= textOf = .ok text := success
  obtain ⟨reply, answered, said⟩ := bind_eq_ok_iff.1 whole
  obtain ⟨now, state, came⟩ := ThrottlePolicy.exists_of_attemptFrom
    (show (persisted.run ⟨now, state⟩) = (.ok reply, _) from Prod.ext answered rfl)
  refine ⟨now, state, reply, ?_, ?_⟩
  · change ((carry (service.message endpoint body) now state).result.mapError _) = .ok reply at came
    cases result : (carry (service.message endpoint body) now state).result with
    | error e =>
        rw [result] at came
        cases came
    | ok other =>
        rw [result] at came
        cases came
        rfl
  · dsimp only [textOf] at said
    split at said
    · rename_i success
      exact ⟨success, Except.ok.inj said⟩
    · cases said

/-- A success is handed on as soon as it comes back. -/
theorem run_post_of_success {endpoint : String} {body : Json} {before after : Clocked σ}
    {reply : Reply}
    (came : (carry (service.message endpoint body)).run before = (.ok reply, after))
    (success : reply.isSuccess = true) :
    (service.post carry endpoint body).run before = (.ok reply.body, after) := by
  have proceeds : Throttle.classify reply.status reply.retryAfter = .proceed := by
    unfold Reply.isSuccess at success
    have free : Throttle.isThrottled reply.status = false := by
      unfold Throttle.isThrottled
      simp only [Bool.and_eq_true, decide_eq_true_eq] at success
      simp only [Bool.or_eq_false_iff, beq_eq_false_iff_ne]
      omega
    simp [Throttle.classify, free]
  have persisted : (ThrottlePolicy.standard.persist
      (fun reply => Throttle.classify reply.status reply.retryAfter)
      ((carry (service.message endpoint body)).map (·.mapError ProviderError.http))).run before =
        (.ok reply, after) := by
    rw [ThrottlePolicy.persist, ThrottlePolicy.run_attemptFrom, Request.run_map, came]
    simp only [Except.mapError, proceeds]
  unfold post
  rw [Request.run_map, persisted]
  simp [Except.bind, success]

/-- Vectors of texts come from an answer that holds them. -/
theorem exists_of_embedBatch {texts : List String} {now : Nat} {state : σ}
    {vectors : List (List Float32)} (filled : texts ≠ [])
    (success : (service.embedBatch carry texts now state).result = .ok vectors) :
    ∃ model now state reply values items,
      (carry (service.message "embeddings" (embeddingBody model texts)) now state).result =
        .ok reply ∧
      reply.isSuccess = true ∧ Holds reply.body values items ∧
      inOrder texts.length items = .ok vectors := by
  obtain ⟨text, rest, rfl⟩ := List.exists_cons_of_ne_nil filled
  unfold embedBatch at success
  cases known : service.embeddingModel with
  | none =>
      rw [known] at success
      cases success
  | some model =>
      rw [known] at success
      have whole : (service.post carry "embeddings" (embeddingBody model (text :: rest)) now
          state).result >>= vectorsOf (text :: rest).length = .ok vectors := success
      obtain ⟨body, answered, read⟩ := bind_eq_ok_iff.1 whole
      obtain ⟨now, state, reply, came, success, rfl⟩ := exists_of_post answered
      obtain ⟨values, items, holds, ordered⟩ := holds_of_vectorsOf read
      exact ⟨model, now, state, reply, values, items, came, success, holds, ordered⟩

/-- Vectors that each belong to one of the texts come to their texts. -/
theorem forall₂_of_placed {Embeds : String → List Float32 → Prop} {texts : List String}
    (perm : (items.map (·.place)).Perm (List.range texts.length))
    (embeds : ∀ item ∈ items, ∀ text, texts[item.place]? = some text → Embeds text item.vector)
    (ordered : inOrder texts.length items = .ok vectors) : List.Forall₂ Embeds texts vectors := by
  have ordering := inOrder_isOrdering texts.length items
  obtain ⟨vectors', ordered', placed⟩ := ordering.placed perm
  rw [ordered] at ordered'
  cases ordered'
  refine List.forall₂_iff_get.2
    ⟨(ordering.length_eq vectors ordered).symm, fun i below below' => ?_⟩
  -- some item says that it belongs to this place
  have listed : i ∈ items.map (·.place) := perm.mem_iff.2 (List.mem_range.2 below)
  obtain ⟨item, member, rfl⟩ := List.mem_map.1 listed
  have found := placed item member
  rw [List.getElem?_eq_getElem below'] at found
  rw [List.get_eq_getElem, List.get_eq_getElem, Option.some.inj found]
  exact embeds item member _ (List.getElem?_eq_getElem below)

/-- **Whether a service answers as agreed.**  If it has a vector for each text, then either each
says which text it belongs to, and no text is left out, or none does and they come in the order of
the texts.  What makes a vector the one of a text is up to the service. -/
def IsHonest (service : HostedService) (carry : Carrier σ)
    (Embeds : String → List Float32 → Prop) : Prop :=
  ∀ model texts now state reply values items,
    (carry (service.message "embeddings" (embeddingBody model texts)) now state).result =
      .ok reply →
    reply.isSuccess = true → Holds reply.body values items → items.length = texts.length →
    ((items.map (·.place)).Perm (List.range texts.length) ∧ ∀ item ∈ items, ∀ text,
        texts[item.place]? = some text → Embeds text item.vector) ∨
      (∀ value ∈ values, value.field? "index" = none) ∧
        List.Forall₂ Embeds texts (items.map (·.vector))

/-- **Vectors of texts are in the order of the texts,** if the service answers as agreed. -/
theorem forall₂_of_embedBatch {Embeds : String → List Float32 → Prop}
    (honest : service.IsHonest carry Embeds) {texts : List String} {now : Nat} {state : σ}
    {vectors : List (List Float32)}
    (filled : texts ≠ [])
    (success : (service.embedBatch carry texts now state).result = .ok vectors) :
    List.Forall₂ Embeds texts vectors := by
  obtain ⟨model, now, state, reply, values, items, came, success, holds, ordered⟩ :=
    exists_of_embedBatch filled success
  have complete : items.length = texts.length := by
    by_contra incomplete
    rw [inOrder_of_length_ne incomplete] at ordered
    cases ordered
  rcases honest model texts now state reply values items came success holds complete with
    ⟨perm, embeds⟩ | ⟨silent, embeds⟩
  · exact forall₂_of_placed perm embeds ordered
  · have first := place_eq_zero_of_silent holds.decoded silent
    rw [(inOrder_isOrdering texts.length items).arrival complete first] at ordered
    cases ordered
    exact embeds

/-! ## A service that answers as agreed -/

/-- An answer holds one list of values. -/
theorem Holds.unique {body : String} {values values' : List Json} {items items' : List PlacedVector}
    (holds : Holds body values items) (holds' : Holds body values' items') :
    values = values' ∧ items = items' := by
  obtain ⟨⟨value, parsed, data⟩, decoded⟩ := holds
  obtain ⟨⟨value', parsed', data'⟩, decoded'⟩ := holds'
  rw [parsed] at parsed'
  cases parsed'
  rw [data] at data'
  cases data'
  rw [decoded] at decoded'
  cases decoded'
  exact ⟨rfl, rfl⟩

/-- What stands for the vector of a text. -/
def lengthVector (text : String) : List Float32 :=
  [Float32.ofNat (text.length % 256)]

/-- A value with the vector of a text, and the place of the text. -/
def placedValue (place : Nat) (text : String) : Json :=
  .object [("embedding", .array [.nat (text.length % 256)]), ("index", .nat place)]

/-- An answer about two texts that begins with the second one. -/
def swappedBody (a b : String) : Json :=
  .object [("data", .array [placedValue 1 b, placedValue 0 a])]

/-- A service that takes two texts at a time. -/
def swapped : Carrier Unit := fun message =>
  match message.body.field? "input" with
  | some (.array [.string a, .string b]) => .answer (.ok ⟨200, none, (swappedBody a b).text⟩)
  | _ => Carrier.broken message

theorem readable_placedValue {place : Nat} (small : place < 2) (text : String) :
    Json.Readable 125 (placedValue place text) := by
  have ordered : "embedding" < "index" := by decide
  refine .object (List.pairwise_pair.2 ordered) fun field member => ?_
  simp only [List.mem_cons, List.not_mem_nil, or_false] at member
  rcases member with rfl | rfl
  · refine .array fun item member => ?_
    rw [List.mem_singleton.1 member]
    exact .whole (by omega) (by omega)
  · exact .whole (by omega) (by omega)

theorem holds_swappedBody (a b : String) : Holds (swappedBody a b).text
    [placedValue 1 b, placedValue 0 a] [⟨1, lengthVector b⟩, ⟨0, lengthVector a⟩] where
  data := by
    refine ⟨swappedBody a b, ?_, rfl⟩
    rw [Json.text, String.toList_ofList]
    refine Json.parse?_render (.object (List.pairwise_singleton _ _) fun field member => ?_)
    rw [List.mem_singleton.1 member]
    refine .array fun item member => ?_
    simp only [List.mem_cons, List.not_mem_nil, or_false] at member
    rcases member with rfl | rfl
    · exact readable_placedValue (by decide) b
    · exact readable_placedValue (by decide) a
  decoded := rfl

theorem isHonest_swapped (service : HostedService) :
    service.IsHonest swapped fun text vector => vector = lengthVector text := by
  intro model texts now state reply values items came success holds complete
  left
  match texts with
  | [a, b] =>
    cases came
    obtain ⟨-, rfl⟩ := holds.unique (holds_swappedBody a b)
    refine ⟨List.Perm.swap 0 1 [], fun item member text there => ?_⟩
    simp only [List.mem_cons, List.not_mem_nil, or_false] at member
    rcases member with rfl | rfl <;> cases there <;> rfl
  | [] => cases came
  | [_] => cases came
  | _ :: _ :: _ :: _ => cases came

/-- It has vectors for two texts at once. -/
theorem exists_embedBatch_swapped {model : String} (known : service.embeddingModel = some model)
    (a b : String) (now : Nat) : ∃ vectors,
      (service.embedBatch swapped [a, b]).run ⟨now, ()⟩ = (.ok vectors, ⟨now, ()⟩) := by
  have complete : ([⟨1, lengthVector b⟩, ⟨0, lengthVector a⟩] : List PlacedVector).length =
      [a, b].length := rfl
  have came : (swapped (service.message "embeddings" (embeddingBody model [a, b]))).run ⟨now, ()⟩ =
      (.ok ⟨200, none, (swappedBody a b).text⟩, ⟨now, ()⟩) := rfl
  unfold embedBatch
  rw [known]
  dsimp only
  rw [Request.run_map, run_post_of_success came rfl, Except.bind,
    vectorsOf_of_holds (holds_swappedBody a b), inOrder_of_length_eq complete]
  exact ⟨_, rfl⟩

end HostedService

end CodeIndex
