import FleetFeed.Graphql.Operation
import FleetFeed.Proofs.Graphql.Replies
import FleetFeed.Proofs.Json.Nulls

/-! Results of operations whose fields are null. Every field but the identity may be left out of a result, but only the agent of a
container may be null: then the result is the one without it. Null in any other field of any result makes the whole reply
unreadable (`null_is_no_absence_but_for_agents`). -/
namespace FleetFeed.Graphql

open Json

/-- The operations whose results are typed. -/
inductive Method : Type → Type
  | containers : Method (List ContainerSummary)
  | agents : Method (List AgentSummary)
  | act (id : String) (action : ContainerAction) : Method ContainerState
  | scale (id : String) (replicas : Nat) : Method ServiceScale
  | drain (id : String) : Method NodeAvailability

/-- What an operation reads: a list of results, or one. -/
def results (listed : Bool) (v : Value) : List Value := match listed, v with
  | true, .arr items => items
  | true, _ => []
  | false, v => [v]

/-- The second value has the results of the first, and each leaves out some of these fields where they are null. -/
def Spares (listed : Bool) (fields names : List String) (v w : Value) : Prop := match listed with
  | true => ∃ items others, v = .arr items ∧ w = .arr others ∧
    List.Forall₂ (fun v w => ∃ left ⊆ names, LeavesOut fields left v w) items others
  | false => ∃ left ⊆ names, LeavesOut fields left v w

namespace Method

variable {α : Type}

def operation : Method α → Operation α
  | .containers => .containers
  | .agents => .agents
  | .act id action => .act id action
  | .scale id replicas => .scale id replicas
  | .drain id => .drain id

/-- The member of the data that holds what is read. -/
def member : Method α → String
  | .containers => "containers"
  | .agents => "agents"
  | .act _ _ => "containerAction"
  | .scale _ _ => "scaleService"
  | .drain _ => "updateNodeAvailability"

def listed : Method α → Bool
  | .containers | .agents => true
  | .act _ _ | .scale _ _ | .drain _ => false

/-- The fields of a result that may be left out. -/
def defaulted : Method α → List String
  | .containers => ["name", "image", "state", "status", "agentId"]
  | .agents => ["name", "address", "status"]
  | .act _ _ => ["state"]
  | .scale _ _ => ["name", "replicas"]
  | .drain _ => ["availability"]

def fields (m : Method α) : List String := "id" :: m.defaulted

/-- The fields that may be null. -/
def nullable : Method α → List String
  | .containers => ["agentId"]
  | _ => []

end Method

/-! ### Reading results -/

/-- Reading takes null in these fields for nothing, and in others not at all. -/
structure TakesNull {α : Type} (d : Decoder α) (listed : Bool) (fields nullable : List String) : Prop where
  alike : ∀ {v w : Value}, Spares listed fields nullable v w → v.Sorted → d .value w.toTree = d .value v.toTree
  refused : ∀ {v u : Value} {name : String}, u ∈ results listed v → name ∈ fields → name ∉ nullable → GivesNull fields name u →
    ∀ a, d .value v.toTree ≠ .ok a

section

variable {α : Type} {fields nullable : List String}

theorem list_toTree (d : Decoder α) (items : List Value) :
    Decoder.list d .value (Value.arr items).toTree = items.mapM fun v => d .value v.toTree := by
  rw [Value.toTree, Value.treesOfItems_eq]
  exact List.mapM_map ..

theorem takesNull_record {x : Fields α} (hx : x.Nullable nullable) (hnames : x.names.Nodup) (record : String) :
    TakesNull (x.decoder record) false x.names nullable where
  alike := by
    rintro v w ⟨left, hleft, h⟩ hv
    exact Fields.decoder_leavesOut hx hnames hleft h hv record
  refused {v u name} hu hname hother hnull := by
    obtain rfl := List.mem_singleton.1 hu
    exact Fields.decoder_givesNull hx hname hother hnull record

theorem takesNull_list {d : Decoder α} (h : TakesNull d false fields nullable) :
    TakesNull (Decoder.list d) true fields nullable where
  alike := by
    rintro _ _ ⟨items, others, rfl, rfl, hitems⟩ hv
    rw [list_toTree, list_toTree]
    have hsorted : ∀ v ∈ items, v.Sorted := Value.sortedItems_iff.1 hv
    clear hv
    induction hitems with
    | nil => rfl
    | cons hspares _ ih =>
      obtain ⟨hv, hrest⟩ := List.forall_mem_cons.1 hsorted
      rw [List.mapM_cons, List.mapM_cons, h.alike hspares hv, ih hrest]
  refused {v u name} hu hname hother hnull as hread := by
    cases v with
    | arr items =>
      rw [list_toTree] at hread
      obtain ⟨a, ha⟩ := exists_mapM_iff.1 ⟨as, hread⟩ u hu
      exact h.refused (List.mem_singleton_self u) hname hother hnull a ha
    | null | bool | num | str | obj => exact absurd hu List.not_mem_nil

end

theorem Method.takesNull {α : Type} (m : Method α) :
    ∃ type d, m.operation.result = Operation.root type m.member d ∧ TakesNull d m.listed m.fields m.nullable := by
  have htext (s : Source) (a : String) : Decoder.string s .null ≠ .ok a := nofun
  have hword (s : Source) (n : Nat) : Decoder.word 64 "u64" s .null ≠ .ok n := nofun
  cases m with
  | containers =>
    refine ⟨_, _, rfl, takesNull_list (takesNull_record ?_ (by decide) _)⟩
    exact ((((((Fields.Nullable.required (by decide) htext).map _).seq (.defaulted (by decide) htext)).seq
      (.defaulted (by decide) htext)).seq (.defaulted (by decide) htext)).seq (.defaulted (by decide) htext)).seq
      (.optional (by decide))
  | agents =>
    refine ⟨_, _, rfl, takesNull_list (takesNull_record ?_ (by decide) _)⟩
    exact (((((Fields.Nullable.required List.not_mem_nil htext).map _).seq (.defaulted List.not_mem_nil htext)).seq
      (.defaulted List.not_mem_nil htext)).seq (.defaulted List.not_mem_nil htext))
  | act id action =>
    refine ⟨_, _, rfl, takesNull_record ?_ (by decide) _⟩
    exact ((Fields.Nullable.required List.not_mem_nil htext).map _).seq (.defaulted List.not_mem_nil htext)
  | scale id replicas =>
    refine ⟨_, _, rfl, takesNull_record ?_ (by decide) _⟩
    exact (((Fields.Nullable.required List.not_mem_nil htext).map _).seq (.defaulted List.not_mem_nil htext)).seq
      (.defaulted List.not_mem_nil hword)
  | drain id =>
    refine ⟨_, _, rfl, takesNull_record ?_ (by decide) _⟩
    exact ((Fields.Nullable.required List.not_mem_nil htext).map _).seq (.defaulted List.not_mem_nil htext)

theorem Reply.sorted_of_data {r : Reply} {v : Value} (h : r.data = .ok v) : v.Sorted := by
  obtain ⟨-, response, hread, hresult⟩ := data_eq_ok_iff.1 h
  obtain ⟨members, -, hmakes⟩ := Response.ofText_eq_ok_iff.1 hread
  obtain ⟨-, rfl⟩ := Response.result_eq_ok_iff.1 hresult
  rcases hmakes.data with ⟨-, hnone⟩ | ⟨t, w, -, -, hfree, hsome⟩
  · rw [hnone]
    trivial
  · rw [hsome]
    exact Tree.sorted_of_value? (Decoder.free_eq_ok_iff.1 hfree).1

namespace Operation

variable {α : Type} {o : Operation α} {d : Decoder α} {type member : String} {r : Reply} {data v : Value}

/-- What an operation comes to once there are data that wrap what it reads. -/
theorem outcome_of_wraps (ho : o.result = root type member d) (hr : r.data = .ok data) (hv : Wraps member v data) :
    o.outcome (.ok r) = (d .value v.toTree).mapError .malformed := by
  have hread : (Fields.required member d).decoder ("struct " ++ type) .value data.toTree = d .value v.toTree :=
    Fields.decoder_of_wraps hv (Reply.sorted_of_data hr)
  unfold outcome
  simp only [bind, Except.bind, hr, ho, Decoder.ofValue, root, hread]

end Operation

namespace Method

variable {α : Type}

/-- What an operation reads may leave out the fields that may be null: it comes to the same, whatever else is in the data. A field
that may be left out but not be null is told as an error where it is null, in any result of a list, whatever else is read. -/
theorem null_is_no_absence_but_for_agents (m : Method α) {r : Reply} {data v : Value} (hr : r.data = .ok data)
    (hv : Wraps m.member v data) :
    (∀ r' data' w, Reply.data r' = .ok data' → Wraps m.member w data' → Spares m.listed m.fields m.nullable v w →
      m.operation.outcome (.ok r') = m.operation.outcome (.ok r)) ∧
    (∀ u ∈ results m.listed v, ∀ name ∈ m.defaulted, name ∉ m.nullable → GivesNull m.fields name u →
      ∃ why, m.operation.outcome (.ok r) = .error ⟨"Malformed payload: " ++ why, none, true⟩) := by
  obtain ⟨type, d, ho, hd⟩ := m.takesNull
  rw [Operation.outcome_of_wraps ho hr hv]
  constructor
  · intro r' data' w hr' hw hspares
    rw [Operation.outcome_of_wraps ho hr' hw, hd.alike hspares (hv.sorted (Reply.sorted_of_data hr))]
  · intro u hu name hname hother hnull
    cases hread : d .value v.toTree with
    | ok a => exact absurd hread (hd.refused hu (List.mem_cons_of_mem _ hname) hother hnull a)
    | error why => exact ⟨why.message, rfl⟩

end Method

/-- Data that list one container. -/
def container (members : List (String × Value)) : Value := .obj [("containers", .arr [.obj members])]

/-- A reply with these data and nothing else. -/
def Reply.bearing (data : Value) : Reply := ⟨200, (Value.obj [("data", data)]).toTree.write⟩

theorem Reply.data_bearing (data : Value) (hexact : (Value.obj [("data", data)]).toTree.Exact)
    (hread : Response.decoder (.text Decoder.maxDepth) (Value.obj [("data", data)]).toTree = .ok ⟨some data, none⟩) :
    (bearing data).data = .ok data := by
  unfold bearing Reply.data
  rw [Decoder.ofText_write hexact, hread]
  rfl

/-- A container without an agent is told by null or by silence, but one without a name only by silence. -/
theorem Method.unknown_agent_may_be_null :
    Operation.containers.outcome (.ok (.bearing (container [("id", .str "c1")]))) =
        Operation.containers.outcome (.ok (.bearing (container [("agentId", .null), ("id", .str "c1")]))) ∧
      ∃ why, Operation.containers.outcome (.ok (.bearing (container [("id", .str "c1"), ("name", .null)]))) =
        .error ⟨"Malformed payload: " ++ why, none, true⟩ := by
  have hsilent := Reply.data_bearing (container [("id", .str "c1")]) (Tree.exact_of_no_numbers rfl rfl) rfl
  have hnull := Reply.data_bearing (container [("agentId", .null), ("id", .str "c1")])
    (Tree.exact_of_no_numbers rfl rfl) rfl
  have hname := Reply.data_bearing (container [("id", .str "c1"), ("name", .null)])
    (Tree.exact_of_no_numbers rfl rfl) rfl
  constructor
  · refine (containers.null_is_no_absence_but_for_agents hnull (.byName List.mem_cons_self)).1 _ _ _ hsilent
      (.byName List.mem_cons_self) ⟨_, _, rfl, rfl, .cons ⟨["agentId"], List.Subset.refl _, ?_⟩ .nil⟩
    exact .byName (List.forall_mem_singleton.2 List.mem_cons_self)
  · exact (containers.null_is_no_absence_but_for_agents hname (.byName List.mem_cons_self)).2 _ List.mem_cons_self "name"
      (by decide) (by decide) (.byName (by decide))

/-- A name that is null fails the listing, and a name that is missing does not. -/
theorem Method.null_name_fails_the_listing :
    Operation.containers.outcome (.ok (.bearing (container [("id", .str "c1"), ("name", .null)]))) =
        .error ⟨"Malformed payload: invalid type: null, expected a string", none, true⟩ ∧
      Operation.containers.outcome (.ok (.bearing (container [("id", .str "c1")]))) = .ok [⟨"c1", "", "", "", "", none⟩] := by
  have hnull := Reply.data_bearing (container [("id", .str "c1"), ("name", .null)])
    (Tree.exact_of_no_numbers rfl rfl) rfl
  have hsilent := Reply.data_bearing (container [("id", .str "c1")]) (Tree.exact_of_no_numbers rfl rfl) rfl
  unfold Operation.outcome
  simp only [bind, Except.bind, hnull, hsilent]
  exact ⟨rfl, rfl⟩

end FleetFeed.Graphql
