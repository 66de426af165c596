import LspGateway.CommandLine
import LspGateway.Proofs.Config.Faults

/-! # What is loaded of a configuration

A file that cannot be opened is told by its path, and so is a text that is no JSON. What
is no text at all is not, nor a path that leads nowhere by itself, nor JSON beyond the
limits of the reader. An object is accepted if and only if its fields are as they should be, and
then the configuration has their values, or the defaults of those that are absent.
-/

namespace LspGateway

/-! ## Files that cannot be read -/

/-- The text of a file, if it can be opened at all, is UTF-8. -/
def ReadsAsText (fs : Files) (path : String) : Prop :=
  Char.ofNat 0 ∉ path.toList ∧
    ∀ bs, fs.bytes path = .ok bs → ∃ cs, Text.Utf8.decode bs = .ok cs

/-- A file that is text, and whose text is JSON within the limits of a reader or fails for
its syntax. -/
def IsLegible (prepare : List Char → List Char) (fs : Files) (path : String) : Prop :=
  ReadsAsText fs path ∧ ∀ text, fs.read path = .ok text →
    ∀ e, Json.parse (prepare text) = .error e → e.isSyntactic = true

variable {fs : Files} {path : String}

/-- Such a file fails to be read only where it cannot be opened. -/
theorem readsAsText_iff :
    ReadsAsText fs path ↔ ∀ e, fs.read path = .error e → ∃ fe, e = .unopened fe := by
  rw [ReadsAsText, Files.read]
  cases nul : path.toList.contains (Char.ofNat 0) with
  | true =>
    have mem : Char.ofNat 0 ∈ path.toList := List.contains_iff_mem.mp nul
    simp [mem]
  | false =>
    have free : Char.ofNat 0 ∉ path.toList := fun mem =>
      Bool.false_ne_true (nul.symm.trans (List.contains_iff_mem.mpr mem))
    simp only [free, not_false_eq_true, true_and, Bool.false_eq_true, if_false]
    cases fs.bytes path with
    | error fault => simp
    | ok bs =>
      cases decoded : Text.Utf8.decode bs <;> simp [decoded]

/-- A configuration is loaded, or what is wrong is told as a fault of the configuration, if
and only if the file is legible without its comments. -/
theorem Config.told_load : (∀ e, Config.load fs path = .error e →
    CommandLine.isConfigurationError e = true) ↔ IsLegible Config.stripComments fs path := by
  rw [IsLegible, readsAsText_iff, Config.load, Config.loadFile]
  cases fs.read path with
  | error e => cases e <;> simp [CommandLine.isConfigurationError]
  | ok text =>
    cases parsed : Json.parse (Config.stripComments text) with
    | error e =>
      cases syntactic : e.isSyntactic <;>
        simp [parsed, syntactic, CommandLine.isConfigurationError]
    | ok j =>
      cases j with
      | obj ms =>
        cases valid : Config.ofMembers ms <;> simp [parsed, valid, CommandLine.isConfigurationError]
      | _ => simp [parsed, CommandLine.isConfigurationError]

end LspGateway

namespace LspGateway.Config
open LspGateway.Text

variable {α β : Type} {ms : Json.Members} {name : String} {read : Json → Reading α} {a : α} {b : β}
  {r : Reading α} {js : List Json} {j : Json} {f : Form}

/-! ## What is read of a valid configuration -/

/-- A list of texts. -/
def texts (xs : List String) : Json := .arr (xs.map .str)

/-- The texts of a field, none if it is absent. -/
inductive Lists (ms : Json.Members) (name : String) : List String → Prop
  | given {xs : List String} (here : ms.get? name = some (texts xs)) : Lists ms name xs
  | absent (h : ms.get? name = none) : Lists ms name []

/-- A text without the dots that another one starts with. -/
def DropsDots (s t : String) : Prop :=
  ∃ n, s.toList = List.replicate n '.' ++ t.toList ∧ t.toList.head? ≠ some '.'

/-- A server has the values of the fields of an object. -/
structure FillsServer (ms : Json.Members) (server : ServerConfig) : Prop where
  id : ms.get? "id" = some (.str server.id)
  languages : Lists ms "languages" server.languages
  extensions : ∃ xs, Lists ms "extensions" xs ∧ List.Forall₂ DropsDots xs server.extensions
  command : ms.get? "command" = some (.str server.command)
  args : Lists ms "args" server.args

/-- A value for a field that may be null or absent. -/
inductive Chooses (ms : Json.Members) (name : String) (encode : α → Json) : Option α → Prop
  | given {a : α} (here : ms.get? name = some (encode a)) :
    Chooses ms name encode (some a)
  | null (here : ms.get? name = some .null) : Chooses ms name encode none
  | absent (h : ms.get? name = none) : Chooses ms name encode none

/-- A configuration has the values of the fields of an object. -/
structure Fills (ms : Json.Members) (config : Config) : Prop where
  servers : ∃ js, ms.get? "lsps" = some (.arr js) ∧
    List.Forall₂ (fun j server => ∃ ms, j = .obj ms ∧ FillsServer ms server) js config.servers
  methods : Chooses ms "methods" texts config.methods
  workspace : Chooses ms "workspace" .str config.workspace
  resources : Chooses ms "resources_dir" .str config.resources

/-- The texts that must not be blank are not. -/
structure IsNamed (server : ServerConfig) : Prop where
  id : strip server.id ≠ ""
  command : strip server.command ≠ ""

theorem map_eq_ok {g : α → β} : r.map g = (.ok b : Reading β) ↔ ∃ a, r = .ok a ∧ g a = b := by
  cases r <;> simp [Except.map]

theorem readString_eq_ok {s : String} : readString j = .ok s ↔ j = .str s := by
  cases j <;> simp [readString, fault]

theorem readName_eq_ok {s : String} : readName j = .ok s ↔ j = .str s ∧ strip s ≠ "" := by
  rw [← readString_eq_ok, readName]
  cases readString j with
  | error is => simp
  | ok t =>
    simp only [← strip_eq_empty_iff]
    split
    · next blank =>
      constructor
      · nofun
      · rintro ⟨same, filled⟩
        exact absurd (Except.ok.inj same ▸ blank) filled
    · next filled =>
      constructor
      · rintro same
        exact ⟨same, Except.ok.inj same ▸ filled⟩
      · exact And.left

theorem readList_eq_ok {as : List α} : readList read j = .ok as ↔
    ∃ js, j = .arr js ∧ List.Forall₂ (fun j a => read j = .ok a) js as := by
  cases j <;> simp [readList, fault, readItems_eq_ok]

theorem readTexts_eq_ok {xs : List String} :
    readList readString j = .ok xs ↔ j = texts xs := by
  simp only [readList_eq_ok, readString_eq_ok]
  have each {js : List Json} : List.Forall₂ (fun j s => j = .str s) js xs ↔ js = xs.map .str := by
    rw [← List.forall₂_map_right_iff (R := Eq), List.forall₂_eq_eq_eq]
  simp only [each]
  exact ⟨fun ⟨js, same, each⟩ => same.trans (each ▸ rfl), fun same => ⟨_, same, rfl⟩⟩

theorem readExtensions_eq_ok {ys : List String} : readExtensions j = .ok ys ↔
    ∃ xs, j = texts xs ∧ List.Forall₂ DropsDots xs ys := by
  have dropped {xs : List String} : xs.map stripDots = ys ↔ List.Forall₂ DropsDots xs ys := by
    rw [← List.forall₂_eq_eq_eq, List.forall₂_map_left_iff]
    simp only [stripDots_eq_iff]
    rfl
  simp only [readExtensions_eq, map_eq_ok, readTexts_eq_ok, dropped]

theorem required_eq_ok : required ms name read = .ok a ↔
    ∃ j, ms.get? name = some j ∧ read j = .ok a := by
  unfold required
  split <;> next here => simp [here, under_eq_ok]

theorem withDefault_eq_ok {absent : α} : withDefault ms name absent read = .ok a ↔
    (ms.get? name = none ∧ absent = a) ∨
      ∃ j, ms.get? name = some j ∧ read j = .ok a := by
  unfold withDefault
  split <;> next here => simp [here, under_eq_ok]

theorem lists_iff {xs : List String} :
    Lists ms name xs ↔ withDefault ms name [] (readList readString) = .ok xs := by
  simp only [withDefault_eq_ok, readTexts_eq_ok]
  constructor
  · rintro (here | absent)
    · exact .inr ⟨_, here, rfl⟩
    · exact .inl ⟨absent, rfl⟩
  · rintro (⟨absent, rfl⟩ | ⟨_, here, rfl⟩)
    · exact .absent absent
    · exact .given here

theorem chooses_iff {encode : α → Json} (reads : ∀ j a, read j = .ok a ↔ j = encode a)
    (some' : ∀ a, encode a ≠ .null) {o : Option α} :
    Chooses ms name encode o ↔ withDefault ms name none (readOptional read) = .ok o := by
  have given {j : Json} (other : j ≠ .null) : readOptional read j = .ok o ↔
      ∃ a, j = encode a ∧ some a = o := by
    simp only [readOptional_eq other, map_eq_ok, reads]
  rw [withDefault_eq_ok]
  constructor
  · rintro (here | here | absent)
    · exact .inr ⟨_, here, (given (some' _)).mpr ⟨_, rfl, rfl⟩⟩
    · exact .inr ⟨_, here, rfl⟩
    · exact .inl ⟨absent, rfl⟩
  · rintro (⟨absent, rfl⟩ | ⟨j, here, read⟩)
    · exact .absent absent
    · by_cases null : j = .null
      · subst null
        obtain rfl := Except.ok.inj read
        exact .null here
      · obtain ⟨a, rfl, rfl⟩ := (given null).mp read
        exact .given here

theorem listsExtensions_iff {ys : List String} :
    (∃ xs, Lists ms name xs ∧ List.Forall₂ DropsDots xs ys) ↔
      withDefault ms name [] readExtensions = .ok ys := by
  simp only [withDefault_eq_ok, readExtensions_eq_ok]
  constructor
  · rintro ⟨xs, here | absent, dropped⟩
    · exact .inr ⟨_, here, xs, rfl, dropped⟩
    · exact .inl ⟨absent, (List.forall₂_nil_left_iff.mp dropped).symm⟩
  · rintro (⟨absent, rfl⟩ | ⟨_, here, xs, rfl, dropped⟩)
    · exact ⟨[], .absent absent, .nil⟩
    · exact ⟨xs, .given here, dropped⟩

/-- A server is read if and only if it has the values of the fields, and its texts are not
blank. -/
theorem serverOfMembers_eq_ok {server : ServerConfig} :
    serverOfMembers ms = .ok server ↔ FillsServer ms server ∧ IsNamed server := by
  have named {field text : String} : required ms field readName = .ok text ↔
      ms.get? field = some (.str text) ∧ strip text ≠ "" := by
    simp [required_eq_ok, readName_eq_ok]
  rw [serverOfMembers_eq, map_eq_ok]
  simp only [Prod.exists, both_eq_ok, named, ← lists_iff, ← listsExtensions_iff]
  constructor
  · rintro ⟨id, languages, extensions, command, args, ⟨fields, rfl⟩⟩
    obtain ⟨⟨id, filled⟩, languages, extensions, ⟨command, filled'⟩, args⟩ := fields
    exact ⟨⟨id, languages, extensions, command, args⟩, ⟨filled, filled'⟩⟩
  · rintro ⟨⟨id, languages, extensions, command, args⟩, filled, filled'⟩
    exact ⟨_, _, _, _, _, ⟨⟨id, filled⟩, languages, extensions, ⟨command, filled'⟩, args⟩, rfl⟩

theorem readServer_eq_ok {server : ServerConfig} : readServer j = .ok server ↔
    IsNamed server ∧ ∃ ms, j = .obj ms ∧ FillsServer ms server := by
  cases j <;> simp [readServer, fault, serverOfMembers_eq_ok, and_comm]

theorem readServers_eq_ok {servers : List ServerConfig} : readServers j = .ok servers ↔
    servers ≠ [] ∧ readList readServer j = .ok servers := by
  unfold readServers
  split
  · next none =>
    rw [none]
    exact ⟨nofun, fun ⟨filled, same⟩ => absurd (Except.ok.inj same).symm filled⟩
  · next found filled read =>
    rw [read]
    constructor
    · rintro same
      exact ⟨Except.ok.inj same ▸ filled, same⟩
    · exact And.right
  · next read => simp [read]

theorem forall₂_and_right {P : β → Prop} {R : α → β → Prop} {as : List α} {bs : List β} :
    List.Forall₂ (fun a b => P b ∧ R a b) as bs ↔ (∀ b ∈ bs, P b) ∧ List.Forall₂ R as bs := by
  have turned : List.Forall₂ (fun b a => P b ∧ R a b) bs as ↔ _ := List.forall₂_and_left bs as
  exact ⟨fun h => (turned.mp h.flip).imp_right List.Forall₂.flip,
    fun h => (turned.mpr (h.imp_right List.Forall₂.flip)).flip⟩

theorem forall_right {P : β → Prop} {R : α → β → Prop} {as : List α} {bs : List β}
    (all : List.Forall₂ R as bs) (each : ∀ a b, R a b → P b) : ∀ b ∈ bs, P b :=
  (forall₂_and_right.mp (all.imp fun a b r => ⟨each a b r, r⟩)).1

/-- A configuration has a server, and no server has a blank name or command. -/
structure IsManned (config : Config) : Prop where
  filled : config.servers ≠ []
  named : ∀ server ∈ config.servers, IsNamed server

/-- A configuration is read if and only if it has the values of the fields, has a server, and
nothing that must not be blank is. -/
theorem ofMembers_eq_ok {config : Config} :
    ofMembers ms = .ok config ↔ Fills ms config ∧ IsManned config := by
  have servers {servers : List ServerConfig} : required ms "lsps" readServers = .ok servers ↔
      (∃ js, ms.get? "lsps" = some (.arr js) ∧ List.Forall₂
        (fun j server => ∃ ms, j = .obj ms ∧ FillsServer ms server) js servers) ∧
      servers ≠ [] ∧ ∀ server ∈ servers, IsNamed server := by
    simp only [required_eq_ok, readServers_eq_ok, readList_eq_ok, readServer_eq_ok,
      forall₂_and_right]
    constructor
    · rintro ⟨_, here, filled, js, rfl, named, fills⟩
      exact ⟨⟨js, here, fills⟩, filled, named⟩
    · rintro ⟨⟨js, here, fills⟩, filled, named⟩
      exact ⟨_, here, filled, js, rfl, named, fills⟩
  have methods {o : Option (List String)} : Chooses ms "methods" texts o ↔
      withDefault ms "methods" none (readOptional (readList readString)) = .ok o :=
    chooses_iff (fun _ _ => readTexts_eq_ok) nofun
  have directory {name : String} {o : Option String} : Chooses ms name .str o ↔
      withDefault ms name none (readOptional readString) = .ok o :=
    chooses_iff (fun _ _ => readString_eq_ok) nofun
  rw [ofMembers_eq, map_eq_ok]
  simp only [Prod.exists, both_eq_ok, servers, ← methods, ← directory]
  constructor
  · rintro ⟨_, _, _, _, ⟨⟨servers, filled, named⟩, methods, workspace, resources⟩, rfl⟩
    exact ⟨⟨servers, methods, workspace, resources⟩, ⟨filled, named⟩⟩
  · rintro ⟨⟨servers, methods, workspace, resources⟩, ⟨filled, named⟩⟩
    exact ⟨_, _, _, _, ⟨⟨servers, filled, named⟩, methods, workspace, resources⟩, rfl⟩

/-! ### When it is accepted -/

def IsTexts (j : Json) : Prop := ∃ xs, j = texts xs

/-- An object has the fields of a server. -/
structure IsServer (ms : Json.Members) : Prop where
  id : ∃ s, ms.get? "id" = some (.str s) ∧ strip s ≠ ""
  command : ∃ s, ms.get? "command" = some (.str s) ∧ strip s ≠ ""
  lists : ∀ name ∈ ["languages", "extensions", "args"], ∀ j, ms.get? name = some j → IsTexts j

/-- An object has the fields of a configuration. -/
structure IsAcceptable (ms : Json.Members) : Prop where
  servers : ∃ js, ms.get? "lsps" = some (.arr js) ∧ js ≠ [] ∧
    ∀ j ∈ js, ∃ server, j = .obj server ∧ IsServer server
  methods : ∀ j, ms.get? "methods" = some j → j = .null ∨ IsTexts j
  directories : ∀ name ∈ ["workspace", "resources_dir"], ∀ j, ms.get? name = some j →
    j = .null ∨ ∃ s, j = .str s

theorem fits_of_isTexts (h : IsTexts j) : Fits (.list .text) j := by
  obtain ⟨xs, rfl⟩ := h
  refine fits_items rfl rfl rfl fun j mem => ?_
  obtain ⟨s, -, rfl⟩ := List.mem_map.mp mem
  exact fits_text s

theorem IsServer.fits (h : IsServer ms) : Fits .server (.obj ms) := by
  have named {name : String} (given : ∃ s, ms.get? name = some (.str s) ∧ strip s ≠ "") :
      ms.get? name ≠ none ∧ ∀ x, ms.get? name = some x → Fits .name x := by
    obtain ⟨s, given, filled⟩ := given
    refine ⟨by simp [given], fun x here => ?_⟩
    obtain rfl := Option.some.inj (given.symm.trans here)
    exact fits_name filled
  have listed {name : String} (mem : name ∈ ["languages", "extensions", "args"]) (x : Json)
      (here : ms.get? name = some x) : Fits (.list .text) x :=
    fits_of_isTexts (h.lists name mem x here)
  refine fits_record ?_
  simp only [List.mem_cons, List.not_mem_nil, or_false, forall_eq_or_imp, forall_eq,
    Bool.false_eq_true, false_imp_iff, true_and, true_imp_iff]
  exact ⟨named h.id, listed (by simp), listed (by simp), named h.command, listed (by simp)⟩

theorem IsAcceptable.fits (h : IsAcceptable ms) : Fits .config (.obj ms) := by
  obtain ⟨js, given, filled, each⟩ := h.servers
  have servers (x : Json) (here : ms.get? "lsps" = some x) : Fits (.nonempty .server) x := by
    obtain rfl := Option.some.inj (given.symm.trans here)
    obtain ⟨j, js, rfl⟩ := List.exists_cons_of_ne_nil filled
    refine fits_items rfl rfl rfl fun j mem => ?_
    obtain ⟨server, rfl, isServer⟩ := each j mem
    exact isServer.fits
  have methods (x : Json) (here : ms.get? "methods" = some x) :
      Fits (.orNull (.list .text)) x :=
    fits_orNull ((h.methods x here).imp_right fits_of_isTexts)
  have directory {name : String} (mem : name ∈ ["workspace", "resources_dir"]) (x : Json)
      (here : ms.get? name = some x) : Fits (.orNull .text) x := by
    refine fits_orNull ((h.directories name mem x here).imp_right ?_)
    rintro ⟨s, rfl⟩
    exact fits_text s
  refine fits_record ?_
  simp only [List.mem_cons, List.not_mem_nil, or_false, forall_eq_or_imp, forall_eq,
    Bool.false_eq_true, false_imp_iff, true_and, true_imp_iff]
  exact ⟨⟨by simp [given], servers⟩, methods, directory (by simp), directory (by simp)⟩

/-- What a configuration was read from is acceptable. -/
theorem Lists.isTexts {xs : List String} (h : Lists ms name xs) (here : ms.get? name = some j) :
    IsTexts j := by
  rcases h with given | absent
  · exact ⟨xs, Option.some.inj (here.symm.trans given)⟩
  · cases absent.symm.trans here

theorem Chooses.shaped {encode : α → Json} {o : Option α} (h : Chooses ms name encode o)
    (here : ms.get? name = some j) : j = .null ∨ ∃ a, j = encode a := by
  rcases h with given | null | absent
  · exact .inr ⟨_, Option.some.inj (here.symm.trans given)⟩
  · exact .inl (Option.some.inj (here.symm.trans null))
  · cases absent.symm.trans here

theorem FillsServer.isServer {server : ServerConfig} (h : FillsServer ms server)
    (named : IsNamed server) : IsServer ms := by
  obtain ⟨xs, extensions, -⟩ := h.extensions
  refine ⟨⟨_, h.id, named.id⟩, ⟨_, h.command, named.command⟩, ?_⟩
  simp only [List.mem_cons, List.not_mem_nil, or_false, forall_eq_or_imp, forall_eq]
  exact ⟨fun _ => h.languages.isTexts, fun _ => extensions.isTexts, fun _ => h.args.isTexts⟩

theorem Fills.isAcceptable {config : Config} (h : Fills ms config) (manned : IsManned config) :
    IsAcceptable ms := by
  obtain ⟨js, given, fills⟩ := h.servers
  refine ⟨⟨js, given, ?_, ?_⟩, fun _ => h.methods.shaped, ?_⟩
  · rintro rfl
    exact manned.filled (List.forall₂_nil_left_iff.mp fills)
  · have both := forall₂_and_right.mpr ⟨manned.named, fills⟩
    have each : List.Forall₂ (fun j _ => (∃ server, j = .obj server ∧ IsServer server) ∧ True) js
        config.servers := by
      refine both.imp fun j server => ?_
      rintro ⟨named, ms, rfl, fills⟩
      exact ⟨⟨ms, rfl, fills.isServer named⟩, trivial⟩
    exact ((List.forall₂_and_left js config.servers).mp each).1
  · simp only [List.mem_cons, List.not_mem_nil, or_false, forall_eq_or_imp, forall_eq]
    exact ⟨fun _ => h.workspace.shaped, fun _ => h.resources.shaped⟩

/-! ## Fields written out again -/

/-- The fields of a server as members of an object. -/
def serverMembers (server : ServerConfig) : Json.Members :=
  [("id", .str server.id), ("languages", texts server.languages),
    ("extensions", texts server.extensions), ("command", .str server.command),
    ("args", texts server.args)]

/-- The fields of a configuration as members of an object. -/
def members (config : Config) : Json.Members :=
  [("lsps", .arr (config.servers.map (.obj <| serverMembers ·))),
    ("methods", config.methods.elim .null texts), ("workspace", config.workspace.elim .null .str),
    ("resources_dir", config.resources.elim .null .str)]

/-- No dots are left to drop. -/
theorem DropsDots.again {s t : String} (h : DropsDots s t) : DropsDots t t := by
  obtain ⟨-, -, first⟩ := h
  exact ⟨0, rfl, first⟩

theorem fillsServer_serverMembers {server : ServerConfig} (h : FillsServer ms server) :
    FillsServer (serverMembers server) server := by
  obtain ⟨xs, -, dropped⟩ := h.extensions
  have again : List.Forall₂ DropsDots server.extensions server.extensions :=
    List.forall₂_same.mpr (forall_right dropped fun _ _ => DropsDots.again)
  exact ⟨rfl, .given rfl, ⟨_, .given rfl, again⟩, rfl, .given rfl⟩

theorem chooses_elim {encode : α → Json} {o : Option α}
    (here : ms.get? name = some (o.elim .null encode)) : Chooses ms name encode o := by
  cases o with
  | none => exact .null here
  | some a => exact .given here

/-- A configuration is read again from its fields. -/
theorem Fills.again {config : Config} (h : Fills ms config) : Fills config.members config := by
  obtain ⟨js, -, fills⟩ := h.servers
  refine ⟨⟨_, rfl, ?_⟩, chooses_elim rfl, chooses_elim rfl, chooses_elim rfl⟩
  rw [List.forall₂_map_left_iff, List.forall₂_same]
  refine forall_right fills fun _ server => ?_
  rintro ⟨ms, -, fills⟩
  exact ⟨_, rfl, fillsServer_serverMembers fills⟩

/-! ## Fields that nobody knows -/

/-- A server with the fields that its form lists. -/
def knownServer : Json → Json
  | .obj ms => .obj (ms.filter (·.1 ∈ Form.server.names))
  | j => j

/-- Servers with the fields that their form lists. -/
def knownServers : Json → Json
  | .arr js => .arr (js.map knownServer)
  | j => j

/-- A configuration with the fields that its form lists. -/
def known (ms : Json.Members) : Json.Members :=
  (ms.filter (·.1 ∈ Form.config.names)).map fun (name, j) =>
    (name, if name = "lsps" then knownServers j else j)

theorem required_congr {ms' : Json.Members} {name : String} {read : Json → Reading α}
    (same : ms'.get? name = ms.get? name) : required ms' name read = required ms name read := by
  rw [required, same, required]

theorem withDefault_congr {ms' : Json.Members} {name : String} {read : Json → Reading α}
    (same : ms'.get? name = ms.get? name) :
    withDefault ms' name a read = withDefault ms name a read := by
  rw [withDefault, same, withDefault]

theorem readServer_knownServer (j : Json) : readServer (knownServer j) = readServer j := by
  cases j with
  | obj ms =>
    let kept : Json.Members := ms.filter (·.1 ∈ Form.server.names)
    have same {name : String} (mem : name ∈ Form.server.names) :
        kept.get? name = Json.Members.get? ms name :=
      Json.Members.get?_filter (p := (· ∈ Form.server.names)) (decide_eq_true mem)
    show serverOfMembers kept = serverOfMembers ms
    rw [serverOfMembers_eq, serverOfMembers_eq, required_congr (same (by decide)),
      required_congr (same (by decide)), withDefault_congr (same (by decide)),
      withDefault_congr (same (by decide)), withDefault_congr (same (by decide))]
  | _ => rfl

theorem readItems_map {g : Json → Json} (same : ∀ j, read (g j) = read j) {n : Nat} :
    readItems read n (js.map g) = readItems read n js := by
  induction js generalizing n with
  | nil => rfl
  | cons j js ih => rw [List.map_cons, readItems, same, ih, readItems]

theorem readServers_knownServers (j : Json) : readServers (knownServers j) = readServers j := by
  cases j with
  | arr js =>
    have items : readList readServer (.arr (js.map knownServer)) = readList readServer (.arr js) :=
      readItems_map readServer_knownServer
    rw [knownServers, readServers, items, readServers]
  | _ => rfl

theorem get?_map {g : String → Json → Json} :
    Json.Members.get? (ms.map fun (k, j) => (k, g k j)) name = (ms.get? name).map (g name) := by
  induction ms with
  | nil => rfl
  | cons m ms ih =>
    by_cases own : m.1 = name
    · simp [Json.Members.get?, own]
    · simpa [Json.Members.get?, own] using ih

theorem get?_known (mem : name ∈ Form.config.names) :
    (known ms).get? name =
      (ms.get? name).map fun j => if name = "lsps" then knownServers j else j := by
  rw [known, get?_map (g := fun name j => if name = "lsps" then knownServers j else j),
    Json.Members.get?_filter (p := (· ∈ Form.config.names)) (decide_eq_true mem)]

/-- Fields that the form does not list do not matter. -/
theorem ofMembers_known : ofMembers (known ms) = ofMembers ms := by
  have other {name : String} (mem : name ∈ Form.config.names) (ne : name ≠ "lsps") :
      (known ms).get? name = ms.get? name := by
    simp [get?_known mem, ne]
  have servers : required (known ms) "lsps" readServers = required ms "lsps" readServers := by
    rw [required, required, get?_known (by decide)]
    cases ms.get? "lsps" with
    | none => rfl
    | some j => simp [readServers_knownServers]
  rw [ofMembers_eq, ofMembers_eq, servers, withDefault_congr (other (by decide) (by decide)),
    withDefault_congr (other (by decide) (by decide)),
    withDefault_congr (other (by decide) (by decide))]

/-! ## What is accepted and what is told -/

/-- The servers of a valid configuration have names. -/
theorem id_ne_of_valid {config : Config} (valid : ofMembers ms = .ok config) {server : ServerConfig}
    (mem : server ∈ config.servers) : server.id ≠ "" := by
  have filled := ((ofMembers_eq_ok.mp valid).2.named server mem).id
  intro empty
  rw [empty] at filled
  exact filled rfl

/-- What becomes of an object that is given for a configuration. -/
structure Validated (ms : Json.Members) : Prop where
  /-- It is accepted if and only if its fields are as they should be. -/
  accepted : (∃ config, ofMembers ms = .ok config) ↔ IsAcceptable ms
  /-- The configuration has the values that are given or the defaults, and extensions without the
  dots before them. -/
  filled : ∀ config, ofMembers ms = .ok config → Fills ms config
  /-- It is read again from its own fields. -/
  again : ∀ config, ofMembers ms = .ok config → ofMembers config.members = .ok config
  /-- Other fields than those of the form, in the object or in a server, are ignored. -/
  ignored : ofMembers (known ms) = ofMembers ms
  /-- What is rejected is told, each faulty element and each missing field, and nothing else. -/
  told : ∀ issues, ofMembers ms = .error issues →
    issues ≠ [] ∧ ∀ i, i ∈ issues ↔ Offends .config (.obj ms) i.path i.kind
  /-- Each is told once, in the order of the fields. -/
  ordered : ∀ issues, ofMembers ms = .error issues →
    (issues.map (·.path)).Nodup ∧ issues.Pairwise fun i k => Before .config i.path k.path
  /-- Each is told by a path that leads to it. -/
  points : ∀ issues, ofMembers ms = .error issues → ∀ i ∈ issues, Points (.obj ms) i

theorem configurations_validated (ms : Json.Members) : Validated ms := by
  have reports := reports_ofMembers ms
  have read {issues : List Issue} (failed : ofMembers ms = .error issues) :
      (ofMembers ms).issues = issues := by rw [failed]; rfl
  constructor
  case accepted =>
    constructor
    · rintro ⟨config, valid⟩
      obtain ⟨fills, manned⟩ := ofMembers_eq_ok.mp valid
      exact fills.isAcceptable manned
    · intro acceptable
      refine reports.explained (List.eq_nil_iff_forall_not_mem.mpr fun i mem => ?_)
      exact acceptable.fits i.path i.kind ((reports.mem i).mp mem)
  case filled =>
    intro config valid
    exact (ofMembers_eq_ok.mp valid).1
  case again =>
    intro config valid
    obtain ⟨fills, manned⟩ := ofMembers_eq_ok.mp valid
    exact ofMembers_eq_ok.mpr ⟨fills.again, manned⟩
  case ignored => exact ofMembers_known
  case told =>
    intro issues failed
    rw [← read failed]
    refine ⟨fun none => ?_, reports.mem⟩
    obtain ⟨config, valid⟩ := reports.explained none
    cases failed.symm.trans valid
  case ordered =>
    intro issues failed
    rw [← read failed]
    exact ⟨List.pairwise_map.mpr (reports.ordered.imp Before.ne), reports.ordered⟩
  case points =>
    intro issues failed i mem
    rw [← read failed] at mem
    exact ((reports.mem i).mp mem).points

/-- Two servers with faults of their own, and a list with two. -/
example : ofMembers [("methods", .arr [.str "m", .int 1, .null]), ("extra", .null),
      ("lsps", .arr [.obj [("command", .str " "), ("args", .str "x")], .str "y"])] =
    .error [⟨[.field "lsps", .index 0, .field "id"], .missing⟩,
      ⟨[.field "lsps", .index 0, .field "command"], .blank⟩,
      ⟨[.field "lsps", .index 0, .field "args"], .notList⟩,
      ⟨[.field "lsps", .index 1], .notServer⟩, ⟨[.field "methods", .index 1], .notString⟩,
      ⟨[.field "methods", .index 2], .notString⟩] := by
  decide +kernel

end LspGateway.Config
