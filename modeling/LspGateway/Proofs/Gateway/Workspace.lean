import LspGateway.Config.Loading
import LspGateway.Proofs.Client.Heeding
import LspGateway.Proofs.Gateway.Forwarding

/-! # How servers are told where they work

The first request to a server names the directory it works in by the scheme and the path as it is.
Documents are named by their canonical URIs. So the two agree if and only if every character of the
path stands for itself in a URI; and the directory can be read back from its name if and only if
nothing in the path ends it, is dropped, or reads as an escape.
-/

namespace LspGateway

variable {fs : Files} {env : Environment} {configured : Option String} {cwd w path uri : String}
  {cs : List Char}

/-- The URI by which a server is told the directory that it works in. -/
def rootUri (directory : String) : String := Uri.fileScheme ++ directory

/-- What stands between a directory and what is inside it: nothing, if it is a root. -/
def joint (directory : String) : String :=
  if directory = "/" ∨ directory = "//" then "" else "/"

/-- The directory that the parameters of a message name. -/
def rootOf? (m : Json) : Option String :=
  ((m.get? "params").bind (·.get? "rootUri")).bind Json.str?

theorem rootOf?_opening (c : Client) : rootOf? c.opening = some (rootUri c.workspace) := rfl

/-- Every character of a text stands for itself in a URI. -/
def Uri.AllPlain (p : String) : Prop := ∀ c ∈ p.toList, isPlain c = true

/-- A text is read as it stands where a URI has its path. -/
structure Uri.ReadsAsIs (p : String) : Prop where
  whole : ∀ c ∈ p.toList, inPath c = true ∧ isDropped c = false
  bare : ¬ HasEscape p.toList

namespace Uri

theorem ofPath_rootUri_iff (h : Path.IsNormal w.toList) :
    ofPath w = .ok (rootUri w) ↔ AllPlain w := by
  have named := ofPath_isNormal h
  rw [String.ofList_toList] at named
  rw [named, Except.ok.injEq, AllPlain, ← encode_eq_self_iff, rootUri, ← String.toList_inj,
    String.toList_append, String.toList_append, List.append_cancel_left_eq, String.toList_ofList]

/-- If a path is what its name is read as, the name has lost nothing on the way. -/
theorem readsAsIs_of_absoluteChars (rest : List Char)
    (same : Path.absoluteChars cwd.toList (decode (pathPart ('/' :: rest))) = '/' :: rest) :
    pathPart ('/' :: rest) = '/' :: rest ∧ decode ('/' :: rest) = '/' :: rest := by
  have part : pathPart ('/' :: rest) = '/' :: pathPart rest := rfl
  rw [part, decode_slash, Path.absoluteChars] at same
  -- no step on the way back makes a text longer, so what one loses no other makes up for
  have normal := Path.length_normalizeChars_le (decode (pathPart rest))
  have read := length_decode_le (pathPart rest)
  have sub := pathPart_sublist rest
  have cut := sub.length_le
  rw [same, List.length_cons, List.length_cons] at normal
  have whole : pathPart rest = rest := sub.eq_of_length (by omega)
  have bare : ¬ HasEscape rest := by
    intro escape
    have shorter := length_decode_lt escape
    rw [whole] at normal
    omega
  rw [part, whole, decode_slash, decode_eq_self_iff.mpr bare]
  exact ⟨rfl, rfl⟩

theorem toPath_rootUri_iff (h : Path.IsNormal w.toList) :
    toPath cwd (rootUri w) = .ok w ↔ ReadsAsIs w := by
  obtain ⟨rest, begins⟩ := h.exists_eq_cons
  have text : w = .ofList ('/' :: rest) := by rw [← begins, String.ofList_toList]
  have leads : toPath cwd (rootUri w) = .ok w ↔
      Path.absoluteChars cwd.toList (decode (pathPart w.toList)) = w.toList := by
    rw [rootUri, text, toPath_file, Except.ok.injEq, ← String.toList_inj]
    simp only [String.toList_ofList]
  rw [leads]
  constructor
  · intro same
    rw [begins] at same
    obtain ⟨whole, read⟩ := readsAsIs_of_absoluteChars rest same
    rw [← begins] at whole read
    exact ⟨pathPart_eq_self_iff.mp whole, decode_eq_self_iff.mp read⟩
  · rintro ⟨whole, bare⟩
    rw [pathPart_eq_self_iff.mpr whole, decode_eq_self_iff.mpr bare, h.absoluteChars_eq]

theorem joint_of_isRoot (h : Path.IsRoot w.toList) : joint w = "" := by
  apply if_pos
  rcases h with root | root
  · exact .inl (String.toList_inj.mp root)
  · exact .inr (String.toList_inj.mp root)

theorem joint_of_not_isRoot (h : ¬ Path.IsRoot w.toList) : joint w = "/" := by
  apply if_neg
  rintro (rfl | rfl)
  · exact h (.inl rfl)
  · exact h (.inr rfl)

theorem allPlain_of_isRoot (h : Path.IsRoot w.toList) : AllPlain w := by
  unfold AllPlain
  rcases h with root | root <;> rw [root] <;> exact List.all_eq_true.mp (by decide)

/-- The URI of what is inside a directory begins with the name of the directory if and only if every
character of that stands for itself. -/
theorem prefix_rootUri_iff (normal : Path.IsNormal path.toList) (named : ofPath path = .ok uri)
    {rest : String} (inside : path = w ++ joint w ++ rest) :
    (rootUri w ++ joint w).toList <+: uri.toList ↔ AllPlain w := by
  have spelled := (ofPath_eq_ok normal).mp ((congrArg ofPath String.ofList_toList).trans named)
  have text : path.toList = w.toList ++ (joint w).toList ++ rest.toList := by
    rw [inside, String.toList_append, String.toList_append]
  rw [spelled, text, rootUri, String.toList_append, String.toList_append, String.toList_append,
    String.toList_ofList, List.append_assoc, List.prefix_append_right_inj, encode_append,
    encode_append]
  by_cases root : Path.IsRoot w.toList
  · have plain := allPlain_of_isRoot root
    rw [joint_of_isRoot root, encode_eq_self_iff.mpr plain]
    simp only [plain, iff_true]
    exact ⟨encode rest.toList, by simp [encode]⟩
  · rw [joint_of_not_isRoot root, List.append_assoc]
    exact prefix_encode_iff

end Uri

/-! ## The first request to a server -/

namespace Client

variable {config : ServerConfig} {policies : List Policy} {inputs : List Input} {k : Nat} {m : Json}

theorem rootOf?_run (fits : ∀ i ∈ inputs, i.Fits (ofConfig config w policies)) :
    rootOf? ((ofConfig config w policies).run inputs).opening = some (rootUri w) := by
  rw [opening_run fits, rootOf?_opening]
  rfl

/-- What a process is sent first is the introduction of its client. -/
theorem head?_sentTo_run (fits : ∀ i ∈ inputs, i.Fits (ofConfig config w policies))
    (notices : (ofConfig config w policies).Notices inputs)
    (first : (((ofConfig config w policies).run inputs).sentTo k).head? = some m) :
    m = ((ofConfig config w policies).run inputs).opening := by
  obtain ⟨handshake, -⟩ := handshake_run fits notices
  have sent : ((ofConfig config w policies).run inputs).sentTo k ≠ [] := by
    intro none'
    rw [none'] at first
    cases first
  obtain ⟨l, here, rfl⟩ := handshake.exists_link sent
  obtain none' | only | ⟨later, greeted⟩ := handshake.course l here
  · exact absurd none' sent
  · rw [only] at first
    exact (Option.some.inj first).symm
  · rw [← greeted] at first
    exact (Option.some.inj first).symm

end Client

/-! ## The directory and the documents inside it -/

/-- How servers are told of a directory and of the documents inside it. -/
structure NamesWorkspace (cwd w : String) : Prop where
  /-- The directory is absolute and in normal form. -/
  rooted : Path.isAbsolute w = true ∧ Path.absolute cwd w = w
  /-- Its name is what every client introduces itself with, and what a process is sent first. -/
  told : ∀ config policies inputs,
    (∀ i ∈ inputs, Client.Input.Fits (Client.ofConfig config w policies) i) →
    let c := (Client.ofConfig config w policies).run inputs
    rootOf? c.opening = some (rootUri w) ∧
      ((Client.ofConfig config w policies).Notices inputs →
        ∀ k m, (c.sentTo k).head? = some m → m = c.opening)
  /-- The name is the canonical URI if and only if every character of the path stands for itself. -/
  canonical : Uri.ofPath w = .ok (rootUri w) ↔ Uri.AllPlain w
  /-- The name leads back if and only if the path is read as it stands. -/
  leadsBack : Uri.toPath cwd (rootUri w) = .ok w ↔ Uri.ReadsAsIs w
  /-- A document inside the directory is opened under a URI that begins with the name if and only if
  every character of the path of the directory stands for itself. -/
  inside : ∀ (fs : Files) languages method args document uri path rest ss,
    NamesDocument args document uri → Uri.toPath fs.cwd uri = .ok path →
    path = w ++ joint w ++ rest → Forwarding.sends fs languages method args = .ok ss →
    ∃ canonical contents request, ss = [Forwarding.opening languages canonical contents, request] ∧
      ((rootUri w ++ joint w).toList <+: canonical.toList ↔ Uri.AllPlain w)

theorem isNormal_workspaceRoot (env : Environment) (configured : Option String)
    (rooted : Path.isAbsolute fs.cwd = true) :
    Path.IsNormal (Config.workspaceRoot fs env configured).toList := by
  unfold Config.workspaceRoot Path.absolute
  rw [String.toList_ofList]
  exact Path.isNormal_absoluteChars (Path.isAbsolute_iff.mp rooted)

/-- The directory that servers work in is named to them by its canonical URI, and its documents by
URIs inside of that, if and only if every character of its path stands for itself in a URI; and it
is read back from its name if and only if the path is read as it stands. -/
theorem workspace_named (fs : Files) (env : Environment) (configured : Option String)
    (rooted : Path.isAbsolute fs.cwd = true) :
    NamesWorkspace fs.cwd (Config.workspaceRoot fs env configured) := by
  have normal := isNormal_workspaceRoot env configured rooted
  generalize Config.workspaceRoot fs env configured = w at normal
  constructor
  case rooted =>
    constructor
    · exact Path.isAbsolute_iff.mpr normal.exists_eq_cons
    · rw [Path.absolute, normal.absoluteChars_eq, String.ofList_toList]
  case told =>
    intro config policies inputs fits
    exact ⟨Client.rootOf?_run fits, fun notices k m first =>
      Client.head?_sentTo_run fits notices first⟩
  case canonical => exact Uri.ofPath_rootUri_iff normal
  case leadsBack => exact Uri.toPath_rootUri_iff normal
  case inside =>
    intro fs' languages method args document uri path rest ss names leads inside ok
    obtain ⟨canonical, contents, params, named, rfl⟩ := Forwarding.sends_inv names leads ok
    refine ⟨canonical, contents, _, rfl, ?_⟩
    exact Uri.prefix_rootUri_iff (Uri.isNormal_of_toPath leads named) named inside

/-- A number sign is where the path of a URI ends. -/
theorem workspace_named_otherwise :
    let fs := Files.ofList [("/src/C#/a.cs", .file [])] "/src"
    let w := Config.workspaceRoot fs [] (some "C#")
    let c := Client.ofConfig ⟨"x", [], [], "s", []⟩ w []
    w = "/src/C#" ∧ rootOf? c.opening = some "file:///src/C#" ∧
    Uri.ofPath w = .ok "file:///src/C%23" ∧ Uri.toPath fs.cwd "file:///src/C#" = .ok "/src/C" ∧
    Forwarding.sends fs ["l"] "m" [("textDocument", .obj [("uri", .str "C#/a.cs")])] =
      .ok [Forwarding.opening ["l"] "file:///src/C%23/a.cs" "",
        .request "m" (.obj [("textDocument", .obj [("uri", .str "file:///src/C%23/a.cs")])])] ∧
    ¬ "file:///src/C#/".toList <+: "file:///src/C%23/a.cs".toList := by
  decide +kernel

/-- A path of plain characters, and a document inside it. -/
theorem workspace_named_plain :
    let fs := Files.ofList [("/ws/my-lib/é.py", .file [120])] "/ws"
    Path.isAbsolute fs.cwd = true ∧ Config.workspaceRoot fs [] (some "./my-lib") = "/ws/my-lib" ∧
    Uri.ofPath "/ws/my-lib" = .ok "file:///ws/my-lib" ∧ Uri.AllPlain "/ws/my-lib" ∧
    NamesWorkspace fs.cwd (Config.workspaceRoot fs [] (some "./my-lib")) := by
  intro fs
  refine ⟨by decide, by decide, by decide, ?_, workspace_named fs [] (some "./my-lib") (by decide)⟩
  exact List.all_eq_true.mp (by decide)

end LspGateway
