import CodeIndex.Proofs.Text.Split
import CodeIndex.Store.Remote.Client

/-!
# Setting up collections at the same time

A client makes sure that its collection and the indexes of its fields are there.  It first asks and
then makes, and between the two somebody else may have made what was missing.  This module lets any
number of clients take turns with one server, in an arbitrary order of their single requests, and
says what comes of it.

The server is a parameter.  What is relied on is `RemoteServer.KeepsCollections`: requests are
carried out one at a time and are never lost, what is missing can be made, and making what is there
already is refused in the words that clients look for and changes nothing.  How collections and
indexes are kept is for the server to say; a `ServerView` is what can be seen of it.

A client is at one of three stages (`CollectionWish.Stage`): it is about to ask, about to create, or
about to index one of its fields.  That it is about to create says nothing about the server, since
others go on meanwhile; that it has come to its fields says that its collection is there, and nobody
takes that away.  `Stage.step` says what one request does to the client that makes it,
`Stage.mono` what it does to the others, and the account of a whole conversation is one induction
along its schedule.

## Main definitions

* `Conversation.hold`: parties that take turns with a server.
* `Conversation.created`: the creations that took effect.
* `RemoteServer.KeepsCollections`: what is relied on of a server.
* `CollectionWish.dialogue`: what a client does.

## Main statements

* `CollectionWish.Stage.step`: a request leads its client to the next stage.
* `Conversation.accounts`: what holds after every part of a schedule.
* `Conversation.setup_succeeds`: all calls succeed, and what is missing is created once.
-/

namespace CodeIndex

/-! ## Refusals -/

theorem Refusal.isAlreadyThere_iff {refusal : Refusal} :
    refusal.isAlreadyThere = true ↔ "already exists".toList <:+: refusal.message.toList :=
  Text.occursIn_iff_infix

/-! ## Conversations -/

/-- A server that carries out one request after the other. -/
abbrev RemoteServer (σ : Type) := RemoteRequest → σ → Except Refusal RemoteReply × σ

/-- Several parties that talk to one server: the state of the server, what is left of the dialogues
of the parties, and the requests so far with their answers. -/
structure Conversation (σ α : Type) where
  state : σ
  parties : List (Dialogue α)
  log : List (RemoteRequest × Except Refusal RemoteReply)

/-- The vector spaces of a collection. -/
structure VectorSpaces where
  dimensions : Nat
  hasSparse : Bool
deriving DecidableEq

namespace Conversation

variable {σ α : Type} (server : RemoteServer σ)

/-- The conversation after one party has made its next request.  A party that has none is silent. -/
def turn (talk : Conversation σ α) (party : Nat) : Conversation σ α :=
  match talk.parties[party]? with
  | some (.ask request next) =>
    let (answer, state) := server request talk.state
    ⟨state, talk.parties.set party (next answer), talk.log ++ [(request, answer)]⟩
  | _ => talk

/-- The conversation after parties have taken turns in some order. -/
def hold (talk : Conversation σ α) (schedule : List Nat) : Conversation σ α :=
  schedule.foldl (turn server) talk

/-- What a request has created, if it was one to create a collection and it took effect. -/
def creation? (name : String) : RemoteRequest × Except Refusal RemoteReply → Option VectorSpaces
  | (.create collection dimensions hasSparse, .ok _) =>
    if collection = name then some ⟨dimensions, hasSparse⟩ else none
  | _ => none

/-- **The creations of a collection that took effect,** in order, each with what it asked for. -/
def created (talk : Conversation σ α) (name : String) : List VectorSpaces :=
  talk.log.filterMap (creation? name)

theorem created_append (state : σ) (parties : List (Dialogue α)) (talk : Conversation σ α)
    (entry : RemoteRequest × Except Refusal RemoteReply) (name : String) :
    (⟨state, parties, talk.log ++ [entry]⟩ : Conversation σ α).created name =
      talk.created name ++ (creation? name entry).toList := by
  cases is : creation? name entry <;> simp [created, is]

variable {server} {talk : Conversation σ α} {party : Nat}

theorem turn_ask {request : RemoteRequest} {next : Except Refusal RemoteReply → Dialogue α}
    {answer : Except Refusal RemoteReply} {after : σ}
    (asks : talk.parties[party]? = some (.ask request next))
    (answered : server request talk.state = (answer, after)) :
    talk.turn server party =
      ⟨after, talk.parties.set party (next answer), talk.log ++ [(request, answer)]⟩ := by
  simp only [turn, asks, answered]

theorem turn_silent (silent : ∀ request next, talk.parties[party]? ≠ some (.ask request next)) :
    talk.turn server party = talk := by
  unfold turn
  split
  · exact absurd ‹_› (silent _ _)
  · rfl

end Conversation

/-! ## Servers -/

/-- What can be seen of the state of a server: its collections, and the fields that it keeps an
index for. -/
structure ServerView (σ : Type) where
  spaces? : σ → String → Option VectorSpaces
  isIndexed : σ → String → String → Prop

namespace RemoteServer

variable {σ : Type}

/-- **What is relied on of a server.**  It says truly whether a collection is there.  It creates one
that is missing as it is asked to, and keeps an index for a field of one that is there.  If what is
to be made is there, nothing changes, and if that is a refusal, it says that it already exists. -/
structure KeepsCollections (server : RemoteServer σ) (view : ServerView σ) : Prop where
  isThere : ∀ state name,
    server (.isThere name) state = (.ok (.isThere (view.spaces? state name).isSome), state)
  create_missing : ∀ state name dimensions hasSparse, view.spaces? state name = none →
    ∃ reply after, server (.create name dimensions hasSparse) state = (.ok reply, after) ∧
      (∀ other, view.spaces? after other =
        if name = other then some ⟨dimensions, hasSparse⟩ else view.spaces? state other) ∧
      ∀ other field, view.isIndexed state other field → view.isIndexed after other field
  create_there : ∀ state name dimensions hasSparse, view.spaces? state name ≠ none →
    ∃ refusal, server (.create name dimensions hasSparse) state = (.error refusal, state) ∧
      "already exists".toList <:+: refusal.message.toList
  index_missing : ∀ state name field, view.spaces? state name ≠ none →
    ¬view.isIndexed state name field →
    ∃ reply after, server (.indexField name field) state = (.ok reply, after) ∧
      (∀ other, view.spaces? after other = view.spaces? state other) ∧
      view.isIndexed after name field ∧
      ∀ other field, view.isIndexed state other field → view.isIndexed after other field
  index_there : ∀ state name field, view.spaces? state name ≠ none →
    view.isIndexed state name field →
    ∃ answer, server (.indexField name field) state = (answer, state) ∧
      ∀ refusal, answer = .error refusal →
        "already exists".toList <:+: refusal.message.toList

end RemoteServer

namespace ServerView

variable {σ : Type}

/-- **What a request of a client does to a server:** it takes nothing away, and adds a collection
only where it took effect as a creation of a missing one. -/
structure LeadsTo (view : ServerView σ) (before : σ)
    (entry : RemoteRequest × Except Refusal RemoteReply) (after : σ) : Prop where
  spaces? : ∀ name, view.spaces? after name =
    (view.spaces? before name).or (Conversation.creation? name entry)
  missing : ∀ name, view.spaces? before name ≠ none → Conversation.creation? name entry = none
  isIndexed : ∀ name field, view.isIndexed before name field → view.isIndexed after name field

variable {view : ServerView σ} {before after : σ}
variable {entry : RemoteRequest × Except Refusal RemoteReply}

theorem LeadsTo.stays (leads : view.LeadsTo before entry after) {name : String}
    (there : view.spaces? before name ≠ none) : view.spaces? after name ≠ none := by
  rw [leads.spaces?, leads.missing name there, Option.or_none]
  exact there

/-- What leaves a server as it is and creates nothing. -/
theorem leadsTo_self (nothing : ∀ name, Conversation.creation? name entry = none) :
    view.LeadsTo before entry before where
  spaces? name := by rw [nothing name, Option.or_none]
  missing name _ := nothing name
  isIndexed _ _ indexed := indexed

end ServerView

/-! ## Clients -/

/-- What a client wants to be there: a collection with some spaces, and indexes for some fields. -/
structure CollectionWish where
  collection : String
  spaces : VectorSpaces
  fields : List String

namespace CollectionWish

open RemoteStore

/-- Makes sure of the indexes for some fields, behind the results of earlier calls. -/
def indexing (collection : String) (results : List (Result Unit)) :
    List String → Dialogue (List (Result Unit))
  | [] => .settled results
  | field :: fields =>
    (ensureKeywordIndex collection field).andThen fun result =>
      indexing collection (results ++ [result]) fields

/-- **What a client does:** it makes sure of its collection, and then of the index of each of its
fields.  The results are those of all calls, in order. -/
def dialogue (wish : CollectionWish) : Dialogue (List (Result Unit)) :=
  (ensure wish.collection wish.spaces.dimensions wish.spaces.hasSparse).andThen fun result =>
    indexing wish.collection [result] wish.fields

/-- The results of some calls that have all succeeded. -/
def successes (calls : Nat) : List (Result Unit) := List.replicate calls (.ok ())

/-- What a client makes of the answer to a request to make something. -/
def making : Except Refusal RemoteReply → Result Unit
  | .ok _ => .ok ()
  | .error refusal =>
    if refusal.isAlreadyThere then .ok () else .error (.collection refusal.message)

/-- What is left of a dialogue before the creation. -/
def creating (wish : CollectionWish) : Dialogue (List (Result Unit)) :=
  .ask (.create wish.collection wish.spaces.dimensions wish.spaces.hasSparse) fun answer =>
    indexing wish.collection [making answer] wish.fields

variable {σ : Type} (wish : CollectionWish) (view : ServerView σ) (state : σ)

/-- **The stages of a client,** with what is left of its dialogue and the greatest number of
requests that it may still make. -/
inductive Stage : Dialogue (List (Result Unit)) → Nat → Prop
  | asking : Stage wish.dialogue (wish.fields.length + 2)
  | creating : Stage wish.creating (wish.fields.length + 1)
  | indexing (done rest : List String) (split : wish.fields = done ++ rest)
      (there : view.spaces? state wish.collection ≠ none)
      (indexed : ∀ field ∈ done, view.isIndexed state wish.collection field) :
      Stage (CollectionWish.indexing wish.collection (successes (done.length + 1)) rest)
        rest.length

variable {wish view state} {server : RemoteServer σ}

/-- **A refusal that says that something already exists is a success.** -/
theorem making_eq_ok {answer : Except Refusal RemoteReply}
    (expected : ∀ refusal, answer = .error refusal →
      "already exists".toList <:+: refusal.message.toList) : making answer = .ok () := by
  cases answer with
  | ok reply => rfl
  | error refusal => exact if_pos (Refusal.isAlreadyThere_iff.2 (expected refusal rfl))

/-- **A client that creates its collection succeeds,** whether somebody else was faster or not.
What it creates is what it wants. -/
theorem creates (keeps : server.KeepsCollections view) (wish : CollectionWish) (state : σ) :
    ∃ answer after,
      server (.create wish.collection wish.spaces.dimensions wish.spaces.hasSparse) state =
        (answer, after) ∧
      making answer = .ok () ∧
      view.LeadsTo state
        (.create wish.collection wish.spaces.dimensions wish.spaces.hasSparse, answer) after ∧
      view.spaces? after wish.collection ≠ none ∧
      ∀ name spaces, Conversation.creation? name
          (.create wish.collection wish.spaces.dimensions wish.spaces.hasSparse, answer) =
        some spaces → wish.collection = name ∧ wish.spaces = spaces := by
  by_cases missing : view.spaces? state wish.collection = none
  · obtain ⟨reply, after, answered, spaces?, indexed⟩ :=
      keeps.create_missing state wish.collection wish.spaces.dimensions wish.spaces.hasSparse
        missing
    refine ⟨.ok reply, after, answered, rfl, ⟨fun name => ?_, fun name present => ?_, indexed⟩,
      by simp [spaces?], fun name spaces created => ?_⟩
    · rw [spaces? name]
      by_cases own : wish.collection = name
      · subst own
        simp [Conversation.creation?, missing]
      · simp [Conversation.creation?, own]
    · exact if_neg fun own : wish.collection = name => present (own ▸ missing)
    · obtain ⟨own, same⟩ := Option.ite_none_right_eq_some.1 created
      exact ⟨own, Option.some.inj same⟩
  · obtain ⟨refusal, answered, worded⟩ :=
      keeps.create_there state wish.collection wish.spaces.dimensions wish.spaces.hasSparse missing
    exact ⟨.error refusal, state, answered,
      making_eq_ok fun _ same => Except.error.inj same ▸ worded,
      ServerView.leadsTo_self fun _ => rfl, missing, nofun⟩

/-- **A client that indexes a field of its collection succeeds,** whether the index is there or
not. -/
theorem indexes (keeps : server.KeepsCollections view) (name field : String)
    (there : view.spaces? state name ≠ none) :
    ∃ answer after, server (.indexField name field) state = (answer, after) ∧
      making answer = .ok () ∧
      view.LeadsTo state (.indexField name field, answer) after ∧
      view.isIndexed after name field := by
  by_cases indexed : view.isIndexed state name field
  · obtain ⟨answer, answered, worded⟩ := keeps.index_there state name field there indexed
    exact ⟨answer, state, answered, making_eq_ok worded, ServerView.leadsTo_self fun _ => rfl,
      indexed⟩
  · obtain ⟨reply, after, answered, spaces?, kept, others⟩ :=
      keeps.index_missing state name field there indexed
    exact ⟨.ok reply, after, answered, rfl,
      ⟨fun other => by simp [spaces?, Conversation.creation?], fun _ _ => rfl, others⟩, kept⟩

/-- The result of making something, told as that of an operation on a store. -/
theorem told_make_andThen {α : Type} (request : RemoteRequest) (next : Result Unit → Dialogue α) :
    (told .collection (make request)).andThen next = .ask request fun answer =>
      next (making answer) := by
  refine congrArg (Dialogue.ask _) (funext fun answer => ?_)
  cases answer with
  | ok reply => rfl
  | error refusal =>
      unfold making
      cases known : refusal.isAlreadyThere <;> simp only [known] <;> rfl

/-- A client asks first, and creates what is missing. -/
theorem dialogue_eq : wish.dialogue =
    .ask (.isThere wish.collection) fun answer =>
      match answer with
      | .error refusal =>
        CollectionWish.indexing wish.collection [.error (.collection refusal.message)] wish.fields
      | .ok reply =>
        if reply.saysThere then
          CollectionWish.indexing wish.collection (successes 1) wish.fields
        else wish.creating := by
  refine congrArg (Dialogue.ask _) (funext fun answer => ?_)
  cases answer with
  | error refusal => rfl
  | ok reply =>
      cases said : reply.saysThere with
      | true => simp only [said, if_true]; rfl
      | false =>
          simp only [said, Bool.false_eq_true, if_false]
          exact told_make_andThen _ _

/-- It indexes the next field, and then the others. -/
theorem indexing_cons (collection field : String) (results : List (Result Unit))
    (fields : List String) : CollectionWish.indexing collection results (field :: fields) =
      .ask (.indexField collection field) fun answer =>
        CollectionWish.indexing collection (results ++ [making answer]) fields :=
  told_make_andThen _ _

namespace Stage

variable {left : Nat} {request : RemoteRequest}
variable {next : Except Refusal RemoteReply → Dialogue (List (Result Unit))}

/-- What others do does not set a client back. -/
theorem mono {dialogue : Dialogue (List (Result Unit))} {after : σ}
    {entry : RemoteRequest × Except Refusal RemoteReply}
    (stage : wish.Stage view state dialogue left) (leads : view.LeadsTo state entry after) :
    wish.Stage view after dialogue left := by
  cases stage with
  | asking => exact .asking
  | creating => exact .creating
  | indexing done rest split there indexed =>
      exact .indexing done rest split (leads.stays there) fun field member =>
        leads.isIndexed _ _ (indexed field member)

/-- A client that has seen its collection goes on to its fields. -/
theorem first (there : view.spaces? state wish.collection ≠ none) :
    wish.Stage view state (CollectionWish.indexing wish.collection (successes 1) wish.fields)
      wish.fields.length :=
  .indexing [] wish.fields rfl there fun _ member => absurd member List.not_mem_nil

/-- **A request leads its client to the next stage.**  What it does to the server takes nothing away
from others, and if it creates a collection, it is the one that the client wants. -/
theorem step (keeps : server.KeepsCollections view)
    (stage : wish.Stage view state (.ask request next) left) :
    ∃ answer after further, server request state = (answer, after) ∧ further < left ∧
      wish.Stage view after (next answer) further ∧
      view.LeadsTo state (request, answer) after ∧
      ∀ name spaces, Conversation.creation? name (request, answer) = some spaces →
        wish.collection = name ∧ wish.spaces = spaces := by
  generalize asks : Dialogue.ask request next = dialogue at stage
  cases stage with
  | asking =>
      rw [dialogue_eq] at asks
      obtain ⟨rfl, rfl⟩ := Dialogue.ask.inj asks
      have answered := keeps.isThere state wish.collection
      cases seen : view.spaces? state wish.collection with
      | none =>
          rw [seen] at answered
          exact ⟨_, state, wish.fields.length + 1, answered, by omega, .creating,
            ServerView.leadsTo_self fun _ => rfl, nofun⟩
      | some spaces =>
          rw [seen] at answered
          have there : view.spaces? state wish.collection ≠ none := by simp [seen]
          exact ⟨_, state, wish.fields.length, answered, by omega, first there,
            ServerView.leadsTo_self fun _ => rfl, nofun⟩
  | creating =>
      obtain ⟨rfl, rfl⟩ := Dialogue.ask.inj asks
      obtain ⟨answer, after, answered, accepted, leads, there, own⟩ := creates keeps wish state
      refine ⟨answer, after, wish.fields.length, answered, by omega, ?_, leads, own⟩
      simp only [accepted]
      exact first there
  | indexing done rest split there indexed =>
      cases rest with
      | nil => cases asks
      | cons field rest =>
          rw [indexing_cons] at asks
          obtain ⟨rfl, rfl⟩ := Dialogue.ask.inj asks
          obtain ⟨answer, after, answered, accepted, leads, kept⟩ :=
            indexes keeps wish.collection field there
          have grown : successes (done.length + 1) ++ [making answer] =
              successes ((done ++ [field]).length + 1) := by
            rw [accepted, successes, successes, ← List.replicate_succ', List.length_append,
              List.length_singleton]
          refine ⟨answer, after, rest.length, answered, by simp, ?_, leads, nofun⟩
          simp only [grown]
          refine .indexing (done ++ [field]) rest (by simp [split]) (leads.stays there) ?_
          intro other member
          obtain member | rfl := List.mem_append.1 member |>.imp_right List.mem_singleton.1
          · exact leads.isIndexed _ _ (indexed other member)
          · exact kept

/-- A client that has nothing left to ask has succeeded with all its calls, and what it wants is
there. -/
theorem settled {results : List (Result Unit)}
    (stage : wish.Stage view state (.settled results) left) :
    left = 0 ∧ results = successes (wish.fields.length + 1) ∧
      view.spaces? state wish.collection ≠ none ∧
      ∀ field ∈ wish.fields, view.isIndexed state wish.collection field := by
  generalize ends : Dialogue.settled results = dialogue at stage
  cases stage with
  | asking =>
      rw [dialogue_eq] at ends
      cases ends
  | creating => cases ends
  | indexing done rest split there indexed =>
      cases rest with
      | nil =>
          obtain rfl := Dialogue.settled.inj ends
          rw [List.append_nil] at split
          rw [split]
          exact ⟨rfl, rfl, there, indexed⟩
      | cons field rest =>
          rw [indexing_cons] at ends
          cases ends

/-- A client that may make no more requests has nothing left to ask. -/
theorem settled_of_zero {dialogue : Dialogue (List (Result Unit))}
    (stage : wish.Stage view state dialogue 0) :
    dialogue = .settled (successes (wish.fields.length + 1)) := by
  generalize none : 0 = left at stage
  cases stage with
  | asking => omega
  | creating => omega
  | indexing done rest split there indexed =>
      obtain rfl := List.length_eq_zero_iff.1 none.symm
      rw [split, List.append_nil]
      rfl

end Stage

end CollectionWish

/-! ## Setting up -/

namespace Conversation

open CollectionWish

variable {σ : Type} {server : RemoteServer σ} {view : ServerView σ}

/-- Clients that are about to set up what they want, and a server in some state. -/
def opening (start : σ) (wishes : List CollectionWish) :
    Conversation σ (List (RemoteStore.Result Unit)) :=
  ⟨start, wishes.map dialogue, []⟩

/-- **What holds at any time while clients set up what they want.**  Every client is at some stage
and has used its turns.  A collection has the spaces that it had, or else those that it was first
created with; it was created only where it was missing, once, as one of its clients wants it. -/
structure Accounts (view : ServerView σ) (start : σ) (wishes : List CollectionWish)
    (schedule : List Nat) (talk : Conversation σ (List (RemoteStore.Result Unit))) : Prop where
  length : talk.parties.length = wishes.length
  stage : ∀ index wish, wishes[index]? = some wish → ∃ dialogue left,
    talk.parties[index]? = some dialogue ∧ wish.Stage view talk.state dialogue left ∧
      left ≤ wish.fields.length + 2 - schedule.count index
  spaces? : ∀ name,
    view.spaces? talk.state name = (view.spaces? start name).or (talk.created name).head?
  once : ∀ name,
    (talk.created name).length ≤ if view.spaces? start name = none then 1 else 0
  wished : ∀ name, ∀ spaces ∈ talk.created name,
    ∃ wish ∈ wishes, wish.collection = name ∧ wish.spaces = spaces

variable {start : σ} {wishes : List CollectionWish} {schedule : List Nat}
variable {talk : Conversation σ (List (RemoteStore.Result Unit))}

theorem accounts_opening : Accounts view start wishes [] (opening start wishes) where
  length := List.length_map _
  stage index wish found :=
    ⟨wish.dialogue, wish.fields.length + 2, by simp [opening, found], .asking, by simp⟩
  spaces? name := by simp [opening, created]
  once name := by simp [opening, created]
  wished name spaces member := by simp [opening, created] at member

/-- The turn of a party that has nothing to ask. -/
theorem Accounts.silent (accounts : Accounts view start wishes schedule talk) {party : Nat}
    (silent : ∀ request next, talk.parties[party]? ≠ some (.ask request next)) :
    Accounts view start wishes (schedule ++ [party]) talk where
  __ := accounts
  stage index wish found := by
    obtain ⟨dialogue, left, is, stage, most⟩ := accounts.stage index wish found
    refine ⟨dialogue, left, is, stage, ?_⟩
    by_cases own : party = index
    · subst own
      cases dialogue with
      | ask request next => exact absurd is (silent request next)
      | settled results => simp [stage.settled.1]
    · simpa [List.count_append, own] using most

/-- The turn of a party that makes a request. -/
theorem Accounts.ask (accounts : Accounts view start wishes schedule talk)
    (keeps : server.KeepsCollections view) {party : Nat} {request : RemoteRequest}
    {next : Except Refusal RemoteReply → Dialogue (List (RemoteStore.Result Unit))}
    (asks : talk.parties[party]? = some (.ask request next)) :
    Accounts view start wishes (schedule ++ [party]) (talk.turn server party) := by
  have bound : party < talk.parties.length := (List.getElem?_eq_some_iff.1 asks).1
  obtain ⟨wish, own⟩ : ∃ wish, wishes[party]? = some wish :=
    ⟨_, List.getElem?_eq_getElem (accounts.length ▸ bound)⟩
  obtain ⟨_, left, is, stage, most⟩ := accounts.stage party wish own
  obtain rfl := Option.some.inj (asks.symm.trans is)
  obtain ⟨answer, after, further, answered, fewer, onward, leads, wants⟩ := stage.step keeps
  rw [turn_ask asks answered]
  refine ⟨by simp [accounts.length], ?_, ?_, ?_, ?_⟩
  · intro index other found
    by_cases same : party = index
    · subst same
      obtain rfl := Option.some.inj (own.symm.trans found)
      exact ⟨next answer, further, by simp [bound], onward, by simp; omega⟩
    · obtain ⟨dialogue, left, is, stage, most⟩ := accounts.stage index other found
      exact ⟨dialogue, left, by simp [same, is], stage.mono leads,
        by simpa [List.count_append, same] using most⟩
  · intro name
    rw [created_append, leads.spaces?, accounts.spaces?, List.head?_append, Option.or_assoc]
    cases creation? name (request, answer) <;> rfl
  · intro name
    rw [created_append]
    cases is : creation? name (request, answer) with
    | none => simpa [is] using accounts.once name
    | some spaces =>
        have missing : view.spaces? talk.state name = none := by
          by_contra there
          simp [leads.missing name there] at is
        rw [accounts.spaces?, Option.or_eq_none_iff, List.head?_eq_none_iff] at missing
        simp [missing]
  · intro name spaces member
    rw [created_append] at member
    obtain earlier | now := List.mem_append.1 member
    · exact accounts.wished name spaces earlier
    · exact ⟨_, List.mem_of_getElem? own, wants name spaces (by simpa using now)⟩

/-- **What holds after every part of a schedule.** -/
theorem accounts (keeps : server.KeepsCollections view) (start : σ) (wishes : List CollectionWish)
    (schedule : List Nat) :
    Accounts view start wishes schedule ((opening start wishes).hold server schedule) := by
  induction schedule using List.reverseRecOn with
  | nil => exact accounts_opening
  | append_singleton schedule party ih =>
      rw [hold, List.foldl_append, List.foldl_cons, List.foldl_nil, ← hold]
      by_cases silent : ∀ request next,
          ((opening start wishes).hold server schedule).parties[party]? ≠ some (.ask request next)
      · rw [turn_silent silent]
        exact ih.silent silent
      · push Not at silent
        obtain ⟨request, next, asks⟩ := silent
        exact ih.ask keeps asks

/-- **Setting up always succeeds.**  Any number of clients make sure of their collections and
fields, in any order of their single requests, on a server in any state.

* A client that has finished has succeeded with every call, and everybody finishes who gets a turn
  for each field and two more.
* When a client has finished, its collection is there and its fields are indexed, and the collection
  was created once if it was missing, and otherwise not at all.
* At any time, a collection has the spaces that it had at the start, or else those that it was first
  created with, which one of its clients wants.  No collection is created twice, and none that was
  there. -/
theorem setup_succeeds (keeps : server.KeepsCollections view) (start : σ)
    (wishes : List CollectionWish) (schedule : List Nat) :
    let talk := (opening start wishes).hold server schedule
    (∀ (index : Nat) (wish : CollectionWish) (results : List (RemoteStore.Result Unit)),
      wishes[index]? = some wish →
      talk.parties[index]? = some (Dialogue.settled results) →
      results = List.replicate (wish.fields.length + 1) (.ok ()) ∧
      view.spaces? talk.state wish.collection ≠ none ∧
      (∀ field ∈ wish.fields, view.isIndexed talk.state wish.collection field) ∧
      (talk.created wish.collection).length =
        if view.spaces? start wish.collection = none then 1 else 0) ∧
    (∀ (index : Nat) (wish : CollectionWish), wishes[index]? = some wish →
      wish.fields.length + 2 ≤ schedule.count index →
      ∃ results, talk.parties[index]? = some (Dialogue.settled results)) ∧
    ∀ name,
      view.spaces? talk.state name = (view.spaces? start name).or (talk.created name).head? ∧
      (talk.created name).length ≤ (if view.spaces? start name = none then 1 else 0) ∧
      ∀ spaces ∈ talk.created name, ∃ wish ∈ wishes,
        wish.collection = name ∧ wish.spaces = spaces := by
  intro talk
  have accounts : Accounts view start wishes schedule talk := accounts keeps start wishes schedule
  refine ⟨?_, ?_, fun name => ⟨accounts.spaces? name, accounts.once name, accounts.wished name⟩⟩
  · intro index wish results found ends
    obtain ⟨_, left, is, stage, -⟩ := accounts.stage index wish found
    obtain rfl := Option.some.inj (ends.symm.trans is)
    obtain ⟨-, succeeded, there, indexed⟩ := stage.settled
    refine ⟨succeeded, there, indexed, (accounts.once _).antisymm ?_⟩
    split
    · rename_i missing
      rw [accounts.spaces?, missing, Option.none_or, ne_eq, List.head?_eq_none_iff] at there
      exact List.length_pos_iff.2 there
    · exact Nat.zero_le _
  · intro index wish found turns
    obtain ⟨dialogue, left, is, stage, most⟩ := accounts.stage index wish found
    obtain rfl : left = 0 := by omega
    exact ⟨_, stage.settled_of_zero ▸ is⟩

/-- The refusal of a shelf to make something again. -/
def again : Refusal := .status 6 "it already exists"

theorem again_worded : "already exists".toList <:+: again.message.toList :=
  Text.occursIn_iff_infix.1 (by decide)

/-- A server that keeps collections with the fields that are indexed, and nothing else. -/
def shelf : RemoteServer (Dictionary (VectorSpaces × List String))
  | .isThere name, shelf => (.ok (.isThere (shelf.get? name).isSome), shelf)
  | .create name dimensions hasSparse, shelf =>
    match shelf.get? name with
    | some _ => (.error again, shelf)
    | none => (.ok .done, shelf.insert name (⟨dimensions, hasSparse⟩, []))
  | .indexField name field, shelf =>
    match shelf.get? name with
    | some (spaces, fields) =>
      if field ∈ fields then (.error again, shelf)
      else (.ok .done, shelf.insert name (spaces, field :: fields))
    | none => (.error (.status 5 "there is no such collection"), shelf)
  | _, shelf => (.error (.unreachable "this is only a shelf"), shelf)

/-- What can be seen of a shelf. -/
def shelfView : ServerView (Dictionary (VectorSpaces × List String)) where
  spaces? shelf name := (shelf.get? name).map (·.1)
  isIndexed shelf name field := ∃ spaces fields, shelf.get? name = some (spaces, fields) ∧
    field ∈ fields

theorem shelf_keepsCollections : shelf.KeepsCollections shelfView where
  isThere state name := by simp [shelf, shelfView]
  create_missing state name dimensions hasSparse missing := by
    have missing : state.get? name = none := Option.map_eq_none_iff.1 missing
    refine ⟨.done, state.insert name (⟨dimensions, hasSparse⟩, []), by simp [shelf, missing], ?_,
      ?_⟩
    · intro other
      by_cases own : name = other <;> simp [shelfView, own]
    · rintro other field ⟨spaces, fields, there, member⟩
      have own : name ≠ other := fun own => by simp [← own, missing] at there
      exact ⟨spaces, fields, by simp [own, there], member⟩
  create_there state name dimensions hasSparse there := by
    obtain ⟨entry, found⟩ := Option.ne_none_iff_exists'.1 (mt Option.map_eq_none_iff.2 there)
    exact ⟨again, by simp [shelf, found], again_worded⟩
  index_missing state name field there fresh := by
    obtain ⟨⟨spaces, fields⟩, found⟩ :=
      Option.ne_none_iff_exists'.1 (mt Option.map_eq_none_iff.2 there)
    have fresh : field ∉ fields := fun member => fresh ⟨spaces, fields, found, member⟩
    refine ⟨.done, state.insert name (spaces, field :: fields), by simp [shelf, found, fresh], ?_,
      ⟨spaces, field :: fields, by simp, by simp⟩, ?_⟩
    · intro other
      by_cases own : name = other
      · subst own
        simp [shelfView, found]
      · simp [shelfView, own]
    · rintro other earlier ⟨spaces', fields', there, member⟩
      by_cases own : name = other
      · subst own
        obtain ⟨rfl, rfl⟩ := Prod.mk.inj (Option.some.inj (found.symm.trans there))
        exact ⟨spaces, field :: fields, by simp, List.mem_cons_of_mem _ member⟩
      · exact ⟨spaces', fields', by simp [own, there], member⟩
  index_there state name field _ indexed := by
    obtain ⟨spaces, fields, found, member⟩ := indexed
    exact ⟨.error again, by simp [shelf, found, member],
      fun _ same => Except.error.inj same ▸ again_worded⟩

/-- Two clients want one collection in two forms, and take their turns one by one: both succeed, and
it is created once. -/
theorem setup_twoClients :
    let wishes : List CollectionWish :=
      [⟨"notes", ⟨3, true⟩, ["repo"]⟩, ⟨"notes", ⟨4, false⟩, ["repo"]⟩]
    let talk := (opening ∅ wishes).hold shelf [0, 1, 0, 1, 0, 1]
    (∀ index < 2, talk.parties[index]? =
      some (Dialogue.settled [Except.ok (), Except.ok ()])) ∧
    shelfView.spaces? talk.state "notes" ≠ none ∧ (talk.created "notes").length = 1 := by
  intro wishes talk
  obtain ⟨succeeded, finishes, -⟩ :=
    setup_succeeds shelf_keepsCollections ∅ wishes [0, 1, 0, 1, 0, 1]
  have first : wishes[0]? = some ⟨"notes", ⟨3, true⟩, ["repo"]⟩ := rfl
  have second : wishes[1]? = some ⟨"notes", ⟨4, false⟩, ["repo"]⟩ := rfl
  obtain ⟨results, done⟩ := finishes 0 _ first (by decide)
  obtain ⟨results', done'⟩ := finishes 1 _ second (by decide)
  obtain ⟨rfl, there, -, once⟩ := succeeded 0 _ _ first done
  obtain ⟨rfl, -⟩ := succeeded 1 _ _ second done'
  refine ⟨fun index bound => ?_, there, once⟩
  match index, bound with
  | 0, _ => exact done
  | 1, _ => exact done'

end Conversation

end CodeIndex
