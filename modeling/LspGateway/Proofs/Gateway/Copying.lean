import Mathlib.Data.List.Forall2
import LspGateway.Forwarding
import LspGateway.Proofs.Schema.Copying

/-! # Arguments are copied before they are changed

The one who makes a call keeps its arguments, and may share any part of them with others. Seen as
containers in a store, a call copies the outermost one and the document, and writes into what it has
made itself. So every container that was there before stays as it is, and what is sent is what the
values alone say.
-/

namespace LspGateway
open Schema (Value Cell Graph)

variable {g g' : Graph} {v w : Value} {j : Json} {js : Json.Members} {key : String} {n : Nat}
  {ms : List (String × Value)}

/-! ## Values in a store -/

namespace Schema.Graph

mutual

/-- What a value of a store says. -/
def Reads (g : Graph) (v : Value) : Json → Prop
  | .null => v = .atom .null
  | .bool b => v = .atom (.bool b)
  | .int i => v = .atom (.int i)
  | .float x => v = .atom (.float x)
  | .str s => v = .atom (.str s)
  | .arr js => ∃ id vs, v = .node id ∧ g.cell? id = some (.arr vs) ∧ ReadsItems g vs js
  | .obj js => ∃ id ms, v = .node id ∧ g.cell? id = some (.obj ms) ∧ ReadsMembers g ms js

/-- What items say. -/
def ReadsItems (g : Graph) : List Value → List Json → Prop
  | vs, [] => vs = []
  | vs, j :: js => ∃ v rest, vs = v :: rest ∧ Reads g v j ∧ ReadsItems g rest js

/-- What members say. -/
def ReadsMembers (g : Graph) : List (String × Value) → List (String × Json) → Prop
  | ms, [] => ms = []
  | ms, (k, j) :: js => ∃ v rest, ms = (k, v) :: rest ∧ Reads g v j ∧ ReadsMembers g rest js

end

mutual

/-- What a value says does not change while every container is kept. -/
theorem Reads.keeps (kept : Keeps g g') {v : Value} : {j : Json} → Reads g v j → Reads g' v j
  | .null, reads => reads
  | .bool _, reads => reads
  | .int _, reads => reads
  | .float _, reads => reads
  | .str _, reads => reads
  | .arr _, ⟨id, vs, eq, here, items⟩ => ⟨id, vs, eq, kept.cell? here, items.keeps kept⟩
  | .obj _, ⟨id, ms, eq, here, members⟩ => ⟨id, ms, eq, kept.cell? here, members.keeps kept⟩

theorem ReadsItems.keeps (kept : Keeps g g') {vs : List Value} :
    {js : List Json} → ReadsItems g vs js → ReadsItems g' vs js
  | [], reads => reads
  | _ :: _, ⟨v, rest, eq, first, others⟩ =>
    ⟨v, rest, eq, first.keeps kept, others.keeps kept⟩

theorem ReadsMembers.keeps (kept : Keeps g g') {ms : List (String × Value)} :
    {js : List (String × Json)} → ReadsMembers g ms js → ReadsMembers g' ms js
  | [], reads => reads
  | (_, _) :: _, ⟨v, rest, eq, first, others⟩ =>
    ⟨v, rest, eq, first.keeps kept, others.keeps kept⟩

end

theorem ReadsMembers.find? {js : Json.Members} (reads : ReadsMembers g ms js) (key : String) :
    (Schema.find? ms key = none ∧ Json.Members.get? js key = none) ∨
      ∃ v j, Schema.find? ms key = some v ∧ Json.Members.get? js key = some j ∧ Reads g v j := by
  induction js generalizing ms with
  | nil =>
    obtain rfl := reads
    exact .inl ⟨rfl, rfl⟩
  | cons m js ih =>
    obtain ⟨k, j⟩ := m
    obtain ⟨v, rest, rfl, first, others⟩ := reads
    by_cases same : k = key
    · right
      refine ⟨v, j, ?_, ?_, first⟩
      · simp [Schema.find?, same]
      · simp [Json.Members.get?, same]
    · have other : (k == key) = false := by simpa using same
      have step : Schema.find? ((k, v) :: rest) key = Schema.find? rest key := by
        rw [Schema.find?, List.find?_cons_of_neg (by simp [other]), Schema.find?]
      have step' : Json.Members.get? ((k, j) :: js) key = Json.Members.get? js key := by
        rw [Json.Members.get?, List.find?_cons_of_neg (by simp [other]), Json.Members.get?]
      rw [step, step']
      exact ih others

theorem ReadsMembers.put (reads : ReadsMembers g ms js) (new : Reads g v j) :
    ReadsMembers g (putMember ms key v) (js.set key j) := by
  induction js generalizing ms with
  | nil =>
    obtain rfl := reads
    exact ⟨v, [], rfl, new, rfl⟩
  | cons m js ih =>
    obtain ⟨k, j'⟩ := m
    obtain ⟨w, rest, rfl, first, others⟩ := reads
    rw [putMember, Json.Members.set]
    split
    · exact ⟨v, rest, rfl, new, others⟩
    · exact ⟨w, _, rfl, first, ih others⟩

/-- A value that says an object is a container with the members that the object has. -/
theorem Reads.members? (reads : Reads g v (.obj js)) (kept : Keeps g g') :
    ∃ ms, g'.members? v = some ms ∧ ReadsMembers g ms js := by
  obtain ⟨id, ms, rfl, here, members⟩ := reads
  refine ⟨ms, ?_, members⟩
  rw [Graph.members?, kept.cell? here]

/-- A value that says anything else is none. -/
theorem Reads.members?_none (reads : Reads g v j) (other : ∀ js, j ≠ .obj js) :
    g.members? v = none := by
  cases j with
  | obj js => exact absurd rfl (other js)
  | arr js =>
    obtain ⟨id, vs, rfl, here, -⟩ := reads
    rw [Graph.members?, here]
  | _ =>
    obtain rfl := reads
    rfl

end Schema.Graph

/-! ## A call seen in a store -/

namespace Forwarding
open Schema.Graph

/-- Something sent to a server: made from texts, or with parameters that may be shared. -/
inductive Handing
  | fresh (send : Send)
  | request (method : String) (params : Value)

/-- What is sent is what the parameters say. -/
inductive Handing.Says (g : Graph) : Handing → Send → Prop
  | fresh {send : Send} : Says g (.fresh send) send
  | request {method : String} {v : Value} {params : Json} (reads : Reads g v params) :
    Says g (.request method v) (.request method params)

/-- The document in a file that members of a store are about. -/
def sharedDocument? (g : Graph) (ms : List (String × Value)) :
    Option (List (String × Value) × String) :=
  match (Schema.find? ms "textDocument").bind g.members? with
  | none => none
  | some document =>
    match Schema.find? document "uri" with
    | some (.atom (.str uri)) =>
      if uri = "" || Uri.isMemory uri then none else some (document, uri)
    | _ => none

/-- What is handed to a server for a call of a method, whose arguments are the members `ms` of a
container. They are copied; so is the document, and the copy of the arguments gets the copy of the
document. -/
def handings (fs : Files) (languages : List String) (method : String) (g : Graph)
    (ms : List (String × Value)) : Graph × Except Error (List Handing) :=
  let (g, copy) := g.create (.obj ms)
  match sharedDocument? g ms with
  | none => (g, .ok [.request method (.node copy)])
  | some (document, uri) =>
    match Uri.toPath fs.cwd uri with
    | .error fault => (g, .error (.badUri fault))
    | .ok path =>
      match Uri.ofPath path with
      | .error fault => (g, .error (.badPath fault))
      | .ok canonical =>
        match readDocument fs path with
        | .error e => (g, .error e)
        | .ok contents =>
          let (g, named) := g.create (.obj (putMember document "uri" (.atom (.str canonical))))
          let g := g.write copy (.obj (putMember ms "textDocument" (.node named)))
          (g, .ok [.fresh (opening languages canonical contents), .request method (.node copy)])

/-- What comes of a call in a store agrees with what comes of it without one. -/
inductive Agrees (g : Graph) : Except Error (List Handing) → Except Error (List Send) → Prop
  | ok {hs : List Handing} {ss : List Send} (reads : List.Forall₂ (Handing.Says g) hs ss) :
    Agrees g (.ok hs) (.ok ss)
  | error (e : Error) : Agrees g (.error e) (.error e)

variable {fs : Files} {languages : List String} {method uri : String}

theorem sharedDocument?_eq (reads : ReadsMembers g ms js) (kept : Keeps g g') :
    (sharedDocument? g' ms = none ∧ fileDocument? js = none) ∨
      ∃ document members uri, sharedDocument? g' ms = some (document, uri) ∧
        fileDocument? js = some (members, uri) ∧ ReadsMembers g document members := by
  unfold sharedDocument? fileDocument?
  obtain ⟨none', none''⟩ | ⟨v, j, found, given, value⟩ := reads.find? "textDocument"
  · left
    rw [none', none'']
    exact ⟨rfl, rfl⟩
  · rw [found, given, Option.bind_some]
    by_cases object : ∃ members, j = .obj members
    · obtain ⟨members, rfl⟩ := object
      obtain ⟨document, holds, inner⟩ := value.members? kept
      rw [holds]
      dsimp only
      obtain ⟨none', none''⟩ | ⟨v', j', found', given', value'⟩ := inner.find? "uri"
      · left
        rw [none', none'']
        exact ⟨rfl, rfl⟩
      · rw [found', given']
        cases j' with
        | str uri =>
          obtain rfl : v' = .atom (.str uri) := value'
          dsimp only
          split
          · exact .inl ⟨rfl, rfl⟩
          · exact .inr ⟨document, members, uri, rfl, rfl, inner⟩
        | arr _ =>
          obtain ⟨id, vs, rfl, -, -⟩ := value'
          exact .inl ⟨rfl, rfl⟩
        | obj _ =>
          obtain ⟨id, vs, rfl, -, -⟩ := value'
          exact .inl ⟨rfl, rfl⟩
        | _ =>
          obtain rfl := value'
          exact .inl ⟨rfl, rfl⟩
    · left
      simp only [not_exists] at object
      rw [(value.keeps kept).members?_none object]
      refine ⟨rfl, ?_⟩
      split
      · next members eq => exact absurd (Option.some.inj eq) (object members)
      · rfl

/-- The copy of the arguments, with the copy of the document in it, has the new URI, and everything
else as it was. -/
theorem reads_copies {document : List (String × Value)} {members : Json.Members}
    (reads : ReadsMembers g ms js) (inner : ReadsMembers g document members) (canonical : String) :
    let copied := g.create (.obj ms)
    let named := copied.1.create (.obj (putMember document "uri" (.atom (.str canonical))))
    let written := named.1.write copied.2 (.obj (putMember ms "textDocument" (.node named.2)))
    Keeps g written ∧ Reads written (.node copied.2)
      (.obj (js.set "textDocument" (.obj (members.set "uri" (.str canonical))))) := by
  intro copied named written
  have size : named.1.cells.size = g.cells.size + 2 := by
    simp only [named, copied, create, Array.size_push]
  have kept : Keeps g written := by
    apply keeps_write _ (Nat.le_refl _)
    exact (keeps_create g _).trans (keeps_create copied.1 _)
  have place : named.2 = g.cells.size + 1 := by simp only [named, copied, create, Array.size_push]
  -- the last write goes to the copy of the arguments, so the copy of the document is still there
  have there : written.cell? named.2 =
      some (.obj (putMember document "uri" (.atom (.str canonical)))) := by
    have other : copied.2 ≠ named.2 := by
      rw [place]
      exact Nat.ne_of_lt (Nat.lt_succ_self _)
    rw [cell?_write_ne other]
    exact cell?_create copied.1 _
  have addressed : Reads written (.node named.2) (.obj (members.set "uri" (.str canonical))) :=
    ⟨_, _, rfl, there, (inner.keeps kept).put rfl⟩
  refine ⟨kept, _, _, rfl, cell?_write ?_ _, (reads.keeps kept).put addressed⟩
  rw [size]
  exact Nat.lt_add_of_pos_right (by decide)

/-- No container that was there before a call is changed by it, and what it sends is what it would
send of the values alone. -/
theorem handings_agree (reads : ReadsMembers g ms js) :
    let (g', r) := handings fs languages method g ms
    Keeps g g' ∧ Agrees g' r (sends fs languages method js) := by
  have kept := keeps_create g (.obj ms)
  unfold handings sends
  dsimp only
  obtain ⟨none', none''⟩ | ⟨document, members, uri, found, file, inner⟩ :=
    sharedDocument?_eq reads kept
  · rw [none', none'']
    refine ⟨kept, .ok (.cons (.request ⟨_, ms, rfl, ?_, reads.keeps kept⟩) .nil)⟩
    exact cell?_create g (.obj ms)
  · rw [found, file]
    dsimp only
    cases Uri.toPath fs.cwd uri with
    | error fault => exact ⟨kept, .error _⟩
    | ok path =>
      dsimp only
      cases Uri.ofPath path with
      | error fault => exact ⟨kept, .error _⟩
      | ok canonical =>
        dsimp only
        cases readDocument fs path with
        | error e => exact ⟨kept, .error _⟩
        | ok contents =>
          obtain ⟨kept', copied⟩ := reads_copies reads inner canonical
          exact ⟨kept', .ok (.cons .fresh (.cons (.request copied) .nil))⟩

end Forwarding

end LspGateway
