import Mathlib.Data.List.Forall2
import LspGateway.Config.Validation
import LspGateway.Proofs.Json.Spelling
import LspGateway.Proofs.Text.Parts

/-! # What is told of a faulty configuration

A form says what the elements of a configuration should be. Every reader tells each element that is
not what its form says and each field that is missing, once, by the path that leads to it and in the
order of the fields. It fails only if there is something to tell.
-/

namespace LspGateway.Config
open LspGateway.Text

/-! ## What a configuration should be -/

/-- A field of an object. -/
structure Field (α : Type) where
  name : String
  required : Bool
  form : α

/-- What an element of a configuration should be. -/
inductive Form
  | text
  /-- A text that is more than blanks. -/
  | name
  | list (item : Form)
  /-- A list with at least one item. -/
  | nonempty (item : Form)
  | orNull (form : Form)
  | record (fields : List (Field Form))

namespace Form

def server : Form := .record [
  ⟨"id", true, .name⟩, ⟨"languages", false, .list .text⟩, ⟨"extensions", false, .list .text⟩,
  ⟨"command", true, .name⟩, ⟨"args", false, .list .text⟩]

def config : Form := .record [
  ⟨"lsps", true, .nonempty .server⟩, ⟨"methods", false, .orNull (.list .text)⟩,
  ⟨"workspace", false, .orNull .text⟩, ⟨"resources_dir", false, .orNull .text⟩]

/-- The form of the items. -/
def item? : Form → Option Form
  | .list f => some f
  | .nonempty f => some f
  | .orNull f => f.item?
  | _ => none

def fields : Form → List (Field Form)
  | .record fs => fs
  | .orNull f => f.fields
  | _ => []

/-- The names of the fields, in order. -/
def names (form : Form) : List String := form.fields.map (·.name)

/-- The form of what is one step below. -/
inductive Below (form : Form) : Place → Form → Prop
  | item {f : Form} (h : form.item? = some f) (n : Nat) : Below form (.index n) f
  | field {field : Field Form} (h : field ∈ form.fields) : Below form (.field field.name) field.form

/-- What is wrong with an element itself, whatever its parts are. -/
def objection? : Form → Json → Option IssueKind
  | .text, .str _ => none
  | .text, _ => some .notString
  | .name, .str s => if strip s = "" then some .blank else none
  | .name, _ => some .notString
  | .list _, .arr _ => none
  | .list _, _ => some .notList
  | .nonempty _, .arr [] => some .noServers
  | .nonempty _, .arr (_ :: _) => none
  | .nonempty _, _ => some .notList
  | .orNull _, .null => none
  | .orNull f, j => f.objection? j
  | .record _, .obj _ => none
  | .record _, _ => some .notServer

end Form

/-- The part of a value that is one step below. -/
def below? : Json → Place → Option Json
  | .obj ms, .field name => Json.Members.get? ms name
  | .arr js, .index n => js[n]?
  | _, _ => none

/-- The element that a path leads to. -/
def at? (j : Json) (path : List Place) : Option Json := path.foldlM below? j

/-- An element that is not what it should be, or a field that is missing, at the end of a path. -/
inductive Offends : Form → Json → List Place → IssueKind → Prop
  | wrong {form : Form} {j : Json} {kind : IssueKind} (objects : form.objection? j = some kind) :
    Offends form j [] kind
  | missing {form : Form} {ms : Json.Members} {field : Field Form} (wanted : field ∈ form.fields)
    (required : field.required) (absent : ms.get? field.name = none) :
    Offends form (.obj ms) [.field field.name] .missing
  | within {form f : Form} {j x : Json} {place : Place} {path : List Place} {kind : IssueKind}
    (wanted : form.Below place f) (here : below? j place = some x)
    (offends : Offends f x path kind) :
    Offends form j (place :: path) kind

/-- Nothing is wrong with a value. -/
def Fits (form : Form) (j : Json) : Prop := ∀ path kind, ¬ Offends form j path kind

/-- The order of paths: items by their places, fields as the form lists them. -/
inductive Before : Form → List Place → List Place → Prop
  | items {form : Form} {m n : Nat} {p q : List Place} (h : m < n) :
    Before form (.index m :: p) (.index n :: q)
  | fields {form : Form} {a b : String} {p q : List Place} (apart : a ≠ b)
    (listed : [a, b].Sublist form.names) :
    Before form (.field a :: p) (.field b :: q)
  | within {form f : Form} {place : Place} {p q : List Place} (h : form.Below place f)
    (before : Before f p q) : Before form (place :: p) (place :: q)

theorem Before.ne {form : Form} {p q : List Place} (h : Before form p q) : p ≠ q := by
  induction h with
  | items lt => simp [lt.ne]
  | fields apart _ => simp [apart]
  | within _ _ ih => simpa using ih

/-! ## What readings report -/

/-- The faults of a reading. -/
def Reading.issues {α : Type} : Reading α → List Issue
  | .ok _ => []
  | .error issues => issues

/-- An issue seen from the value that holds the element. -/
def Issue.under (place : Place) (i : Issue) : Issue := ⟨place :: i.path, i.kind⟩

variable {α β : Type} {ms : Json.Members} {name : String} {read : Json → Reading α} {a : α} {b : β}
  {r : Reading α} {q : Reading β} {js : List Json} {j : Json} {form f : Form} {i : Issue}
  {fs gs : List (Field Form)} {place : Place} {path : List Place} {kind : IssueKind}

theorem issues_under : (r.under place).issues = r.issues.map (Issue.under place) := by
  cases r <;> rfl

theorem issues_both : (r.both q).issues = r.issues ++ q.issues := by
  cases r <;> cases q <;> simp [Reading.both, Reading.issues]

/-- A reading that does not succeed tells why. -/
def Reading.Explained (r : Reading α) : Prop := r.issues = [] → ∃ a, r = .ok a

theorem explained_under (h : r.Explained) : (r.under place).Explained := by
  cases r with
  | ok a => exact fun _ => ⟨a, rfl⟩
  | error is => exact fun none => by simpa using h (List.map_eq_nil_iff.mp none)

theorem explained_both (h : r.Explained) (h' : q.Explained) : (r.both q).Explained := by
  intro none
  rw [issues_both, List.append_eq_nil_iff] at none
  obtain ⟨a, rfl⟩ := h none.1
  obtain ⟨b, rfl⟩ := h' none.2
  exact ⟨(a, b), rfl⟩

/-- A reading tells all that is wrong with a value, each fault once and in order, and fails only if
something is. -/
structure Reports (form : Form) (j : Json) (r : Reading α) : Prop where
  mem : ∀ i, i ∈ r.issues ↔ Offends form j i.path i.kind
  ordered : r.issues.Pairwise fun i k => Before form i.path k.path
  explained : r.Explained

/-! ### Elements without parts -/

theorem reports_ok (fits : Fits form j) : Reports form j (.ok a : Reading α) :=
  ⟨fun i => by simpa [Reading.issues] using fits i.path i.kind, .nil, fun _ => ⟨a, rfl⟩⟩

/-- What is wrong itself has no parts that could be wrong. -/
theorem reports_fault (objects : form.objection? j = some kind)
    (alone : ∀ place f x, form.Below place f → below? j place ≠ some x)
    (here : ∀ ms, j = .obj ms → form.fields = []) : Reports form j (fault kind : Reading α) := by
  refine ⟨fun i => ?_, List.pairwise_singleton _ _, nofun⟩
  obtain ⟨path, k⟩ := i
  simp only [fault, Reading.issues, List.mem_singleton, Issue.mk.injEq]
  constructor
  · rintro ⟨rfl, rfl⟩
    exact .wrong objects
  · intro offends
    cases offends with
    | wrong other => exact ⟨rfl, Option.some.inj (other.symm.trans objects)⟩
    | missing wanted => simp [here _ rfl] at wanted
    | within wanted found => exact absurd found (alone _ _ _ wanted)

theorem not_below_text : ¬ Form.text.Below place f := by
  rintro (⟨h, _⟩ | h)
  · cases h
  · cases h

theorem not_below_name : ¬ Form.name.Below place f := by
  rintro (⟨h, _⟩ | h)
  · cases h
  · cases h

theorem fits_text (s : String) : Fits .text (.str s) := by
  intro path kind offends
  cases offends with
  | wrong objects => cases objects
  | within wanted => exact not_below_text wanted

theorem fits_name {s : String} (filled : strip s ≠ "") : Fits .name (.str s) := by
  intro path kind offends
  cases offends with
  | wrong objects => simp [Form.objection?, filled] at objects
  | within wanted => exact not_below_name wanted

theorem reports_readString (j : Json) : Reports .text j (readString j) := by
  cases j with
  | str s => exact reports_ok (fits_text s)
  | _ => exact reports_fault rfl (fun _ _ _ wanted => (not_below_text wanted).elim) fun _ _ => rfl

theorem reports_readName (j : Json) : Reports .name j (readName j) := by
  cases j with
  | str s =>
    unfold readName
    simp only [readString, ← strip_eq_empty_iff]
    split
    · next blank =>
      exact reports_fault (by simp [Form.objection?, blank])
        (fun _ _ _ wanted => (not_below_name wanted).elim) nofun
    · next filled => exact reports_ok (fits_name filled)
  | _ => exact reports_fault rfl (fun _ _ _ wanted => (not_below_name wanted).elim) fun _ _ => rfl

/-! ### Lists -/

theorem issues_readItems {n : Nat} : (readItems read n js).issues =
    (js.zipIdx n).flatMap fun x => (read x.1).issues.map (Issue.under (.index x.2)) := by
  induction js generalizing n with
  | nil => rfl
  | cons j js ih =>
    have both : (readItems read n (j :: js)).issues =
        (((read j).under (.index n)).both (readItems read (n + 1) js)).issues := by
      rw [readItems]
      split <;> next h => rw [h]; rfl
    rw [both, issues_both, issues_under, ih, List.zipIdx_cons, List.flatMap_cons]

theorem both_eq_ok : r.both q = .ok (a, b) ↔ r = .ok a ∧ q = .ok b := by
  cases r <;> cases q <;> simp [Reading.both]

theorem under_eq_ok : r.under place = .ok a ↔ r = .ok a := by
  cases r <;> simp [Reading.under]

theorem readItems_eq_ok {n : Nat} {as : List α} :
    readItems read n js = .ok as ↔ List.Forall₂ (fun j a => read j = .ok a) js as := by
  induction js generalizing n as with
  | nil => simp [readItems, List.forall₂_nil_left_iff, eq_comm]
  | cons j js ih =>
    have both : readItems read n (j :: js) = .ok as ↔ ∃ a as', as = a :: as' ∧
        ((read j).under (.index n)).both (readItems read (n + 1) js) = .ok (a, as') := by
      rw [readItems]
      split <;> next h => simp [h, eq_comm]
    rw [both]
    simp only [both_eq_ok, under_eq_ok, ih, List.forall₂_cons_left_iff]
    tauto

theorem explained_readItems {n : Nat} (each : ∀ j, (read j).Explained) :
    (readItems read n js).Explained := by
  induction js generalizing n with
  | nil => exact fun _ => ⟨_, rfl⟩
  | cons j js ih =>
    have both : (((read j).under (.index n)).both (readItems read (n + 1) js)).Explained :=
      explained_both (explained_under (each j)) ih
    unfold readItems
    split
    · exact fun _ => ⟨_, rfl⟩
    · next failed => exact fun none => by simpa [failed] using both (failed ▸ none)

/-- Nothing is wrong with a list if nothing is wrong with its items. -/
theorem fits_items (item : form.item? = some f) (own : form.fields = [])
    (fine : form.objection? (.arr js) = none) (all : ∀ j ∈ js, Fits f j) : Fits form (.arr js) := by
  intro path kind offends
  cases offends with
  | wrong objects => rw [fine] at objects; cases objects
  | within wanted here offends =>
    cases wanted with
    | item same n =>
      obtain rfl := Option.some.inj (item.symm.trans same)
      exact all _ (List.mem_of_getElem? here) _ _ offends
    | field wanted => simp [own] at wanted

/-- The items of a list are reported one after another. -/
theorem reports_readItems (item : form.item? = some f) (own : form.fields = [])
    (fine : form.objection? (.arr js) = none) (each : ∀ j, Reports f j (read j)) :
    Reports form (.arr js) (readItems read 0 js) := by
  have mem (i : Issue) : i ∈ (readItems read 0 js).issues ↔
      ∃ n j, js[n]? = some j ∧ ∃ k ∈ (read j).issues, i = k.under (.index n) := by
    rw [issues_readItems, List.mem_flatMap]
    constructor
    · rintro ⟨⟨j, n⟩, here, inside⟩
      obtain ⟨k, mem, rfl⟩ := List.mem_map.mp inside
      exact ⟨n, j, List.mem_zipIdx_iff_getElem?.mp here, k, mem, rfl⟩
    · rintro ⟨n, j, here, k, mem, rfl⟩
      exact ⟨(j, n), List.mem_zipIdx_iff_getElem?.mpr here, List.mem_map_of_mem mem⟩
  constructor
  case mem =>
    intro i
    rw [mem]
    constructor
    · rintro ⟨n, j, here, k, inside, rfl⟩
      exact .within (.item item n) here (((each j).mem k).mp inside)
    · obtain ⟨path, kind⟩ := i
      intro offends
      cases offends with
      | wrong objects => rw [fine] at objects; cases objects
      | within wanted here offends =>
        cases wanted with
        | item same n =>
          obtain rfl := Option.some.inj (item.symm.trans same)
          exact ⟨n, _, here, ⟨_, _⟩, ((each _).mem ⟨_, _⟩).mpr offends, rfl⟩
        | field wanted => simp [own] at wanted
  case ordered =>
    rw [issues_readItems, List.pairwise_flatMap]
    refine ⟨fun x _ => ?_, ?_⟩
    · rw [List.pairwise_map]
      exact (each x.1).ordered.imp fun before => .within (.item item x.2) before
    · have places : (js.zipIdx 0).Pairwise fun x y => x.2 < y.2 := by
        rw [← List.pairwise_map, List.zipIdx_map_snd]
        exact List.pairwise_lt_range'
      refine places.imp fun {x y} lt i hi k hk => ?_
      obtain ⟨i, -, rfl⟩ := List.mem_map.mp hi
      obtain ⟨k, -, rfl⟩ := List.mem_map.mp hk
      exact .items lt
  case explained => exact explained_readItems fun j => (each j).explained

/-- What is no list has no items. -/
theorem reports_notList (objects : form.objection? j = some .notList) (own : form.fields = [])
    (other : ∀ js, j ≠ .arr js) : Reports form j (fault .notList : Reading α) := by
  refine reports_fault objects (fun place f x wanted here => ?_) fun _ _ => own
  cases wanted with
  | item _ n =>
    cases j with
    | arr js => exact other js rfl
    | _ => cases here
  | field wanted => simp [own] at wanted

theorem reports_readList (each : ∀ j, Reports f j (read j)) (j : Json) :
    Reports (.list f) j (readList read j) := by
  cases j with
  | arr js => exact reports_readItems rfl rfl rfl each
  | _ => exact reports_notList rfl rfl nofun

/-- A reading of the same faults. -/
theorem Reports.map (h : Reports form j r) (g : α → β) : Reports form j (r.map g) := by
  cases r with
  | ok a => exact ⟨h.mem, h.ordered, fun _ => ⟨g a, rfl⟩⟩
  | error is =>
    refine ⟨h.mem, h.ordered, fun none => ?_⟩
    obtain ⟨a, failed⟩ := h.explained none
    cases failed

theorem readExtensions_eq (j : Json) :
    readExtensions j = (readList readString j).map (·.map stripDots) := by
  unfold readExtensions
  split <;> next h => rw [h]; rfl

theorem reports_readServers (each : ∀ j, Reports f j (readServer j)) (j : Json) :
    Reports (.nonempty f) j (readServers j) := by
  cases j with
  | arr js =>
    cases js with
    | nil =>
      refine reports_fault rfl (fun place f x wanted here => ?_) nofun
      cases place <;> simp [below?] at here
    | cons j js =>
      have items : Reports (.nonempty f) (.arr (j :: js)) (readItems readServer 0 (j :: js)) :=
        reports_readItems rfl rfl rfl each
      have same : readServers (.arr (j :: js)) = readItems readServer 0 (j :: js) := by
        unfold readServers readList
        dsimp only
        split
        · next none => cases readItems_eq_ok.mp none
        · next h => exact h.symm
        · next h => exact h.symm
      rw [same]
      exact items
  | _ => exact reports_notList rfl rfl nofun

/-! ### Null -/

theorem objection?_orNull (some : j ≠ .null) : (Form.orNull f).objection? j = f.objection? j := by
  cases j with
  | null => exact absurd rfl some
  | _ => rfl

theorem below_orNull : (Form.orNull form).Below place f ↔ form.Below place f := by
  have item : (Form.orNull form).item? = form.item? := rfl
  have fields : (Form.orNull form).fields = form.fields := rfl
  constructor
  · rintro (⟨h, n⟩ | h)
    · exact .item (item ▸ h) n
    · exact .field (fields ▸ h)
  · rintro (⟨h, n⟩ | h)
    · exact .item (item.symm ▸ h) n
    · exact .field (fields.symm ▸ h)

/-- The same is wrong with a value whether it may be null or not, unless it is. -/
theorem offends_orNull (some : j ≠ .null) :
    Offends (.orNull f) j path kind ↔ Offends f j path kind := by
  constructor
  · intro offends
    cases offends with
    | wrong objects => exact .wrong (objection?_orNull some ▸ objects)
    | missing wanted required absent => exact .missing wanted required absent
    | within wanted here offends => exact .within (below_orNull.mp wanted) here offends
  · intro offends
    cases offends with
    | wrong objects => exact .wrong ((objection?_orNull some).symm ▸ objects)
    | @missing _ _ field wanted required absent =>
      have wanted : field ∈ (Form.orNull f).fields := wanted
      exact .missing wanted required absent
    | within wanted here offends => exact .within (below_orNull.mpr wanted) here offends

theorem fits_null : Fits (.orNull f) .null := by
  intro path kind offends
  cases offends with
  | wrong objects => cases objects
  | within _ here => cases here

theorem fits_orNull (h : j = .null ∨ Fits f j) : Fits (.orNull f) j := by
  by_cases null : j = .null
  · subst null
    exact fits_null
  · intro path kind offends
    exact (h.resolve_left null) path kind ((offends_orNull null).mp offends)

theorem Before.orNull {p q : List Place} (h : Before form p q) : Before (.orNull form) p q := by
  cases h with
  | items lt => exact .items lt
  | fields apart listed => exact .fields apart listed
  | within below before => exact .within (below_orNull.mpr below) before

theorem readOptional_eq (some : j ≠ .null) : readOptional read j = (read j).map Option.some := by
  unfold readOptional
  split
  · exact absurd rfl some
  · split <;> next h => rw [h]; rfl

theorem reports_readOptional (each : ∀ j, Reports f j (read j)) (j : Json) :
    Reports (.orNull f) j (readOptional read j) := by
  by_cases null : j = .null
  · subst null
    exact reports_ok fits_null
  · rw [readOptional_eq null]
    have own : Reports f j ((read j).map Option.some) := (each j).map _
    exact ⟨fun i => (own.mem i).trans (offends_orNull null).symm, own.ordered.imp Before.orNull,
      own.explained⟩

/-! ### Objects -/

theorem below_record : (Form.record fs).Below place f ↔
    ∃ field ∈ fs, place = .field field.name ∧ f = field.form := by
  constructor
  · rintro (⟨h, n⟩ | h)
    · cases h
    · exact ⟨_, h, rfl, rfl⟩
  · rintro ⟨field, mem, rfl, rfl⟩
    exact .field mem

/-- What is wrong with an object is wrong with one of its fields. -/
theorem offends_record : Offends (.record fs) (.obj ms) path kind ↔ ∃ field ∈ fs,
    (field.required ∧ ms.get? field.name = none ∧ path = [.field field.name] ∧
        kind = .missing) ∨
      ∃ x rest, ms.get? field.name = some x ∧ path = .field field.name :: rest ∧
        Offends field.form x rest kind := by
  constructor
  · intro offends
    cases offends with
    | wrong objects => cases objects
    | missing wanted required absent => exact ⟨_, wanted, .inl ⟨required, absent, rfl, rfl⟩⟩
    | within wanted here offends =>
      obtain ⟨field, mem, rfl, rfl⟩ := below_record.mp wanted
      exact ⟨field, mem, .inr ⟨_, _, here, rfl, offends⟩⟩
  · rintro ⟨field, mem, ⟨required, absent, rfl, rfl⟩ | ⟨x, rest, here, rfl, offends⟩⟩
    · exact .missing mem required absent
    · exact .within (below_record.mpr ⟨field, mem, rfl, rfl⟩) here offends

/-- Nothing is wrong with an object if no field is missing and nothing is wrong with those that are
there. -/
theorem fits_record (all : ∀ field ∈ fs, (field.required → ms.get? field.name ≠ none) ∧
    ∀ x, ms.get? field.name = some x → Fits field.form x) : Fits (.record fs) (.obj ms) := by
  intro path kind offends
  obtain ⟨field, mem, ⟨required, absent, -⟩ | ⟨x, rest, here, -, offends⟩⟩ :=
    offends_record.mp offends
  · exact (all field mem).1 required absent
  · exact (all field mem).2 x here rest kind offends

theorem Offends.field (h : Offends (.record fs) (.obj ms) path kind) :
    ∃ field ∈ fs, ∃ rest, path = .field field.name :: rest := by
  obtain ⟨field, mem, ⟨-, -, rfl, -⟩ | ⟨-, rest, -, rfl, -⟩⟩ := offends_record.mp h
  · exact ⟨field, mem, [], rfl⟩
  · exact ⟨field, mem, rest, rfl⟩

theorem Before.mono {p q : List Place} (sub : fs.Sublist gs) (h : Before (.record fs) p q) :
    Before (.record gs) p q := by
  cases h with
  | items lt => exact .items lt
  | fields apart listed => exact .fields apart (listed.trans (sub.map _))
  | within below before =>
    obtain ⟨field, mem, rfl, rfl⟩ := below_record.mp below
    exact .within (below_record.mpr ⟨field, sub.subset mem, rfl, rfl⟩) before

/-- The fields of an object are reported one after another. -/
theorem Reports.both (h : Reports (.record fs) (.obj ms) r) (h' : Reports (.record gs) (.obj ms) q)
    (apart : ∀ a ∈ fs, ∀ b ∈ gs, a.name ≠ b.name) :
    Reports (.record (fs ++ gs)) (.obj ms) (r.both q) := by
  constructor
  case mem =>
    intro i
    rw [issues_both, List.mem_append, h.mem, h'.mem]
    simp only [offends_record, List.mem_append, or_and_right, exists_or]
  case ordered =>
    rw [issues_both, List.pairwise_append]
    refine ⟨h.ordered.imp (.mono (List.sublist_append_left fs gs)),
      h'.ordered.imp (.mono (List.sublist_append_right fs gs)), fun i hi k hk => ?_⟩
    obtain ⟨a, ha, p, hp⟩ := ((h.mem i).mp hi).field
    obtain ⟨b, hb, q, hq⟩ := ((h'.mem k).mp hk).field
    rw [hp, hq]
    refine .fields (apart a ha b hb) ?_
    show [a.name, b.name].Sublist ((fs ++ gs).map (·.name))
    rw [List.map_append]
    exact (List.singleton_sublist.mpr (List.mem_map_of_mem ha)).append
      (List.singleton_sublist.mpr (List.mem_map_of_mem hb))
  case explained => exact explained_both h.explained h'.explained

theorem reports_given {field : Field Form} {x : Json}
    (here : ms.get? field.name = some x) (h : Reports field.form x r) :
    Reports (.record [field]) (.obj ms) (r.under (.field field.name)) := by
  constructor
  case mem =>
    intro i
    rw [issues_under, List.mem_map, offends_record]
    constructor
    · rintro ⟨k, mem, rfl⟩
      exact ⟨field, List.mem_singleton_self field, .inr ⟨x, _, here, rfl, (h.mem k).mp mem⟩⟩
    · obtain ⟨path, kind⟩ := i
      rintro ⟨own, mem, faulty⟩
      obtain rfl := List.mem_singleton.mp mem
      rcases faulty with ⟨-, absent, -⟩ | ⟨y, rest, here', path, offends⟩
      · cases here.symm.trans absent
      · obtain rfl := Option.some.inj (here.symm.trans here')
        exact ⟨⟨rest, _⟩, (h.mem _).mpr offends, by rw [Issue.under, ← path]⟩
  case ordered =>
    rw [issues_under, List.pairwise_map]
    exact h.ordered.imp fun before => .within (below_record.mpr ⟨field, by simp, rfl, rfl⟩) before
  case explained => exact explained_under h.explained

theorem reports_required (name : String) (each : ∀ j, Reports f j (read j)) :
    Reports (.record [⟨name, true, f⟩]) (.obj ms) (required ms name read) := by
  unfold required
  split
  · next x here => exact reports_given here (each x)
  · next absent =>
    refine ⟨fun i => ?_, List.pairwise_singleton _ _, nofun⟩
    obtain ⟨path, kind⟩ := i
    simp [Reading.issues, offends_record, absent]

theorem reports_withDefault (name : String) (a : α) (each : ∀ j, Reports f j (read j)) :
    Reports (.record [⟨name, false, f⟩]) (.obj ms) (withDefault ms name a read) := by
  unfold withDefault
  split
  · next x here => exact reports_given here (each x)
  · next absent =>
    refine reports_ok fun path kind offends => ?_
    simp [offends_record, absent] at offends

theorem serverOfMembers_eq : serverOfMembers ms =
    ((required ms "id" readName).both <|
      (withDefault ms "languages" [] (readList readString)).both <|
      (withDefault ms "extensions" [] readExtensions).both <|
      (required ms "command" readName).both <|
      withDefault ms "args" [] (readList readString)).map
    fun (id, languages, extensions, command, args) =>
      ⟨id, languages, extensions, command, args⟩ := by
  unfold serverOfMembers
  dsimp only
  split <;> next h => rw [h]; rfl

/-- A server is reported as its form says. -/
theorem reports_serverOfMembers (ms : Json.Members) :
    Reports .server (.obj ms) (serverOfMembers ms) := by
  have texts (j : Json) : Reports (.list .text) j (readList readString j) :=
    reports_readList reports_readString j
  have extensions (j : Json) : Reports (.list .text) j (readExtensions j) := by
    rw [readExtensions_eq]
    exact (texts j).map _
  rw [serverOfMembers_eq]
  refine Reports.map ?_ _
  exact (reports_required "id" reports_readName).both
    ((reports_withDefault "languages" [] texts).both
      ((reports_withDefault "extensions" [] extensions).both
        ((reports_required "command" reports_readName).both
          (reports_withDefault "args" [] texts) (by decide)) (by decide)) (by decide)) (by decide)

theorem reports_readServer (j : Json) : Reports .server j (readServer j) := by
  cases j with
  | obj ms => exact reports_serverOfMembers ms
  | _ =>
    refine reports_fault rfl (fun place f x wanted here => ?_) nofun
    obtain ⟨field, -, rfl, -⟩ := below_record.mp wanted
    cases here

theorem ofMembers_eq : ofMembers ms =
    ((required ms "lsps" readServers).both <|
      (withDefault ms "methods" none (readOptional (readList readString))).both <|
      (withDefault ms "workspace" none (readOptional readString)).both <|
      withDefault ms "resources_dir" none (readOptional readString)).map
    fun (servers, methods, workspace, resources) => ⟨servers, methods, workspace, resources⟩ := by
  unfold ofMembers
  dsimp only
  split <;> next h => rw [h]; rfl

/-- A configuration is reported as its form says. -/
theorem reports_ofMembers (ms : Json.Members) : Reports .config (.obj ms) (ofMembers ms) := by
  have texts (j : Json) : Reports (.orNull (.list .text)) j (readOptional (readList readString) j) :=
    reports_readOptional (reports_readList reports_readString) j
  have text (j : Json) : Reports (.orNull .text) j (readOptional readString j) :=
    reports_readOptional reports_readString j
  rw [ofMembers_eq]
  refine Reports.map ?_ _
  exact (reports_required "lsps" (reports_readServers reports_readServer)).both
    ((reports_withDefault "methods" none texts).both
      ((reports_withDefault "workspace" none text).both
        (reports_withDefault "resources_dir" none text) (by decide)) (by decide)) (by decide)

/-! ### Paths -/

/-- The path of an issue leads to the element that is faulty, or to the object that a field is
missing from. -/
inductive Points (data : Json) : Issue → Prop
  | element {path : List Place} {kind : IssueKind} {j : Json} (other : kind ≠ .missing)
    (here : at? data path = some j) : Points data ⟨path, kind⟩
  | field {path : List Place} {name : String} {ms : Json.Members}
    (here : at? data path = some (.obj ms)) (absent : ms.get? name = none) :
    Points data ⟨path ++ [.field name], .missing⟩

theorem objection?_ne_missing (form : Form) (j : Json) : form.objection? j ≠ some .missing := by
  fun_induction Form.objection? form j <;> simp_all

theorem Points.under {x : Json} (here : below? j place = some x) (points : Points x i) :
    Points j (i.under place) := by
  have down {path : List Place} : at? j (place :: path) = at? x path := by simp [at?, here]
  cases points with
  | element other there => exact .element other (down.trans there)
  | @field path name ms there absent =>
    show Points j ⟨(place :: path) ++ [.field name], .missing⟩
    exact .field (down.trans there) absent

theorem Offends.points (offends : Offends form j path kind) : Points j ⟨path, kind⟩ := by
  induction offends with
  | wrong objects =>
    refine .element ?_ rfl
    rintro rfl
    exact objection?_ne_missing _ _ objects
  | @missing _ ms _ _ _ absent =>
    have here : at? (.obj ms) [] = some (.obj ms) := rfl
    exact .field here absent
  | within wanted here offends ih => exact ih.under here

end LspGateway.Config
