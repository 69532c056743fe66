import Waymark.Command.Basic
import Waymark.Proofs.Tree.Spelled

/-! A host with the tool's directory in it. A run in the host finds the tool among the directories there, a run
in the tool or below finds it above. Both come to the marker file of the host and to the same context, whatever
marker files there are inside the tool and above the host.
-/

set_option autoImplicit false

namespace Waymark

open Waymark.Path

variable {tree : Tree} {path dir : Path} {host below location : Location} {tool name : String} {config : Config}

def ToolRoot.namesTool (name : String) : Bool := nameStart.toList.isPrefixOf (Text.lowercase name.toList)

/-- Whether a name is one of the tool's own directory, but for its letters' case. -/
def Resolution.isCanonicalName (name : String) : Bool :=
  canonicalNames.contains (String.ofList (Text.lowercase name.toList))

/-- A host with its marker file and one directory of the tool. What else stands there is left open. -/
structure Nested (tree : Tree) (host : Location) (tool : String) (config : Config) : Prop where
  proper : tree.Proper
  unlinked : ∀ location target, tree.node? location ≠ some (.link target)
  plain : ∀ name ∈ host, ToolRoot.namesTool name = false
  marked : ∃ content text, tree.node? (host ++ [Config.fileName]) = some (.file content) ∧
    String.fromUTF8? content = some text ∧ Config.read? text.toList = some config
  directory : tree.node? (host ++ [tool]) = some .directory
  canonical : Resolution.isCanonicalName tool = true
  only : ∀ name, tree.node? (host ++ [name]) = some .directory → Resolution.isCanonicalName name = true →
    name = tool

/-- A directory that is the tool's or below it, near enough to the host for its marker file to be found. -/
structure Nested.Within (tree : Tree) (host : Location) (tool : String) (below : Location) : Prop where
  directory : tree.node? (host ++ tool :: below) = some .directory
  plain : ∀ name ∈ below, ToolRoot.namesTool name = false
  near : below.length + 1 ≤ Resolution.defaultDepth

namespace Nested

def marker (host : Location) : Path := host.path.join Config.fileName

/-- The context that the marker file of a host asks for. -/
def context (tree : Tree) (host : Location) (tool : String) (config : Config) : Context :=
  let hostRoot := Resolution.hostOf tree (marker host) config
  .attached (host ++ [tool]).path hostRoot (.gather tree hostRoot)

end Nested

theorem find?_of_only {α : Type} {holds : α → Bool} {item : α} {items : List α} (among : item ∈ items)
    (held : holds item = true) (only : ∀ other ∈ items, holds other = true → other = item) :
    items.find? holds = some item := by
  cases found : items.find? holds with
  | none => exact absurd held (List.find?_eq_none.1 found item among)
  | some other => rw [only other (List.mem_of_find?_eq_some found) (List.find?_some found)]

/-! Finding the tool's directory -/

namespace ToolRoot

theorem isToolName_eq (spelled : path.Spelled location) :
    isToolName path = location.getLast?.any namesTool := by
  rw [isToolName, Resolution.lowerName, spelled.fileName?, Option.any_map]
  refine congrArg (Option.any · _) (funext fun name => ?_)
  simp [namesTool]

theorem namesTool_of_canonical (canonical : Resolution.isCanonicalName name = true) : namesTool name = true := by
  have starts : ∀ lower ∈ Resolution.canonicalNames, nameStart.toList.isPrefixOf lower.toList = true := by decide
  rw [Resolution.isCanonicalName, List.contains_iff_mem] at canonical
  simpa [namesTool] using starts _ canonical

theorem above?_rel (spelled : path.Spelled location) :
    Option.Rel Spelled (above? path) (location.upward.find? (·.getLast?.any namesTool)) :=
  spelled.find?_ancestors isToolName_eq

theorem above?_eq_none (spelled : path.Spelled location) (plain : ∀ name ∈ location, namesTool name = false) :
    above? path = none := by
  have none : location.upward.find? (·.getLast?.any namesTool) = none := by
    refine List.find?_eq_none.2 fun k among => ?_
    have above := Location.mem_upward.1 among
    rcases List.eq_nil_or_concat k with rfl | ⟨front, last, rfl⟩
    · simp
    · rw [List.concat_eq_append] at above ⊢
      simp [plain last (above.subset (by simp))]
  have found := above?_rel spelled
  rw [none] at found
  generalize above? path = result at found
  cases found
  rfl

theorem above?_of_below (spelled : path.Spelled (host ++ tool :: below)) (named : namesTool tool = true)
    (plain : ∀ name ∈ below, namesTool name = false) :
    ∃ found, above? path = some found ∧ found.Spelled (host ++ [tool]) := by
  have nearest : (Location.upward (host ++ tool :: below)).find? (·.getLast?.any namesTool) =
      some (host ++ [tool]) := by
    obtain ⟨lower, upward, -, between⟩ := Location.upward_append (host ++ [tool]) below
    have none : lower.find? (·.getLast?.any namesTool) = none := by
      refine List.find?_eq_none.2 fun k among => ?_
      obtain ⟨front, last, rfl, above⟩ := between k among
      rw [← List.append_assoc, List.getLast?_concat]
      simp [plain last (above.subset (by simp))]
    rw [List.append_cons, upward, Location.upward_concat, List.find?_append, none, Option.none_or,
      List.find?_cons_of_pos]
    simpa using named
  have found := above?_rel spelled
  rw [nearest] at found
  generalize above? path = result at found
  obtain @⟨path, _, spells⟩ := found
  exact ⟨path, rfl, spells⟩

end ToolRoot

/-! Going on from the tool's directory -/

namespace Resolution

theorem settled_of_spelled (spelled : path.Spelled location) (formed : tree.Formed)
    (directory : tree.node? location = some .directory) : settled tree path = location.path := by
  simp [settled, Tree.canonical, spelled.resolve formed directory, bind, Except.bind, directory, pure,
    Except.pure, Except.toOption]

end Resolution

namespace Nested

theorem isFileName (nested : Nested tree host tool config) : IsFileName tool :=
  nested.proper.named host tool (by simp [nested.directory])

theorem host_directory (nested : Nested tree host tool config) : tree.node? host = some .directory :=
  nested.proper.formed.inside host tool (by simp [nested.directory])

theorem resolve_join (nested : Nested tree host tool config) (spelled : dir.Spelled host)
    (there : tree.node? (host ++ [name]) ≠ none) : tree.resolve (dir.join name) true = .ok (host ++ [name]) :=
  Tree.resolve_follow (nested.unlinked _)
    ((spelled.reaches nested.proper.formed nested.host_directory).resolve (nested.proper.named host name there)
      nested.proper.formed there)

theorem load_marker (nested : Nested tree host tool config) (spelled : dir.Spelled host) :
    tree.isFile (dir.join Config.fileName) = true ∧ Config.load tree (dir.join Config.fileName) = .ok config := by
  obtain ⟨content, text, file, decoded, parsed⟩ := nested.marked
  have led := nested.resolve_join spelled (by simp [file] : tree.node? (host ++ [Config.fileName]) ≠ none)
  constructor
  · simp [Tree.isFile, Tree.find, led, bind, Except.bind, file, pure, Except.pure]
  · rw [Config.load, Tree.read_of_node led file]
    simp [decoded, parsed]

theorem isTool_iff (nested : Nested tree host tool config) (spelled : dir.Spelled host)
    (there : tree.node? (host ++ [name]) ≠ none) :
    (Resolution.isCanonical (dir.join name) && tree.isDirectory (dir.join name)) = true ↔ name = tool := by
  have isFile := nested.proper.named host name there
  have led := nested.resolve_join spelled there
  have canonical : Resolution.isCanonical (dir.join name) = Resolution.isCanonicalName name := by
    simp [Resolution.isCanonical, Resolution.lowerName, fileName?_join dir isFile, Resolution.isCanonicalName]
  rw [Bool.and_eq_true, canonical, Tree.isDirectory_iff]
  constructor
  · rintro ⟨named, l, led', directory⟩
    obtain rfl := Except.ok.inj (led.symm.trans led')
    exact nested.only name directory named
  · rintro rfl
    exact ⟨nested.canonical, _, led, nested.directory⟩

theorem inside? (nested : Nested tree host tool config) (spelled : dir.Spelled host) :
    ToolRoot.inside? tree dir = some (dir.join tool) := by
  have led := spelled.resolve nested.proper.formed nested.host_directory
  have listed : tree.list dir = .ok ((tree.namesIn host).filterMap fun name =>
      (tree.item? (host ++ [name])).map (name, ·)) := by
    simp [Tree.list, led, bind, Except.bind, nested.host_directory, pure, Except.pure]
  have there : tree.node? (host ++ [tool]) ≠ none := by simp [nested.directory]
  obtain ⟨item, held, -⟩ : ∃ item, tree.item? (host ++ [tool]) = some item ∧ item.node = .directory := by
    have directory := nested.directory
    rwa [Tree.node?_eq_item? tree (by simp), Option.map_eq_some_iff] at directory
  rw [ToolRoot.inside?, listed]
  refine find?_of_only ?_ ((nested.isTool_iff spelled there).2 rfl) fun path among isTool => ?_
  · simp only [List.mem_map, List.mem_filterMap]
    exact ⟨(tool, item), ⟨tool, Tree.mem_namesIn.2 there, by rw [held]; rfl⟩, rfl⟩
  · simp only [List.mem_map, List.mem_filterMap] at among
    obtain ⟨_, ⟨name, listed, found⟩, rfl⟩ := among
    obtain ⟨item, -, rfl⟩ := Option.map_eq_some_iff.1 found
    rw [(nested.isTool_iff spelled (Tree.mem_namesIn.1 listed)).1 isTool]

theorem find_of_host (nested : Nested tree host tool config) (spelled : dir.Spelled host) (program : Option Path) :
    (ToolRoot.find tree dir program).Spelled (host ++ [tool]) := by
  rw [ToolRoot.find, ToolRoot.above?_eq_none spelled nested.plain, nested.inside? spelled]
  exact spelled.join nested.isFileName

theorem find_of_within (nested : Nested tree host tool config) (within : Within tree host tool below)
    (spelled : dir.Spelled (host ++ tool :: below)) (program : Option Path) :
    (ToolRoot.find tree dir program).Spelled (host ++ [tool]) := by
  obtain ⟨found, above, foundSpelled⟩ :=
    ToolRoot.above?_of_below spelled (ToolRoot.namesTool_of_canonical nested.canonical) within.plain
  rw [ToolRoot.find, above]
  exact foundSpelled

theorem tool_areFiles (nested : Nested tree host tool config) : ∀ name ∈ host ++ [tool], IsFileName name :=
  nested.proper.isFileName (by simp [nested.directory])

theorem areFiles (nested : Nested tree host tool config) : ∀ name ∈ host, IsFileName name :=
  nested.proper.isFileName (by simp [nested.host_directory])

/-- What lies in the tool's directory, or the host itself. -/
def InTool (tool : String) (below : Location) : Prop := ∀ first ∈ below.head?, first = tool

theorem InTool.prefix_append (inTool : InTool tool below) (host : Location) {front : Location} {last : String}
    (above : front ++ [last] <+: below) : host ++ [tool] <+: host ++ (front ++ [last]) := by
  obtain ⟨rest, rfl⟩ := above
  obtain ⟨first, more, same⟩ := List.exists_cons_of_ne_nil (by simp : front ++ [last] ≠ [])
  rw [same] at inTool ⊢
  rw [← inTool first rfl]
  exact (List.prefix_append_right_inj host).2 ⟨more, rfl⟩

theorem markers_eq_cons (nested : Nested tree host tool config)
    (directory : tree.node? (host ++ below) = some .directory) (inTool : InTool tool below) {depth : Nat}
    (near : below.length ≤ depth) :
    ∃ more, Resolution.markers tree (host ++ [tool]).path (host ++ below).path depth = marker host :: more := by
  have there := nested.proper.isFileName (by simp [directory] : tree.node? (host ++ below) ≠ none)
  have toolPath := spelled_path nested.tool_areFiles
  obtain ⟨lower, upward, length, between⟩ := Location.upward_append host below
  obtain ⟨more, further⟩ := Location.upward_eq_cons host
  -- What lies below the host lies in the tool, so marker files there do not count.
  have skipped : (lower.map Location.path).filter (!·.startsWith (host ++ [tool]).path) = [] := by
    refine List.filter_eq_nil_iff.2 fun path among => ?_
    obtain ⟨k, passed, rfl⟩ := List.mem_map.1 among
    obtain ⟨front, last, rfl, above⟩ := between k passed
    have inside := inTool.prefix_append host above
    have files : ∀ name ∈ host ++ (front ++ [last]), IsFileName name := fun name listed =>
      there name (((List.prefix_append_right_inj host).2 above).subset listed)
    rw [Bool.not_eq_true', ((spelled_path files).startsWith_iff toolPath).2 inside]
    simp
  -- The host itself is above the tool.
  have kept : (!host.path.startsWith (host ++ [tool]).path) = true := by
    rw [Bool.not_eq_true', ← Bool.not_eq_true, (spelled_path nested.areFiles).startsWith_iff toolPath]
    intro inside
    have short := inside.length_le
    rw [List.length_append, List.length_singleton] at short
    omega
  have searched : ((lower ++ host :: more).map Location.path).take (depth + 1) =
      lower.map Location.path ++ host.path :: (more.map Location.path).take (depth - below.length) := by
    rw [List.map_append, List.take_append, List.take_of_length_le (by simp [length]; omega), List.length_map,
      length, Nat.succ_sub near, List.map_cons, List.take_succ_cons]
  rw [Resolution.markers, ancestors_path there, upward, further, searched, List.filter_append, skipped,
    List.nil_append, List.filter_cons, if_pos kept, List.map_cons, List.filter_cons,
    if_pos (nested.load_marker (spelled_path nested.areFiles)).1]
  exact ⟨_, rfl⟩

/-- From the host, and from the tool's directory and below, the host is found through its marker file. -/
theorem resolve_of_spelled (nested : Nested tree host tool config) {root : Path}
    (found : root.Spelled (host ++ [tool])) (spelled : dir.Spelled (host ++ below))
    (directory : tree.node? (host ++ below) = some .directory) (inTool : InTool tool below) {depth : Nat}
    (near : below.length ≤ depth) :
    ∃ ambiguity, Resolution.resolve tree root dir depth =
      .ok ⟨context tree host tool config, config, .marker (marker host), ambiguity⟩ := by
  have formed := nested.proper.formed
  have isDirectory : tree.isDirectory root = true :=
    Tree.isDirectory_iff.2 ⟨_, found.resolve formed nested.directory, nested.directory⟩
  obtain ⟨more, markers⟩ := nested.markers_eq_cons directory inTool near
  have loaded : Config.load tree (marker host) = .ok config :=
    (nested.load_marker (spelled_path nested.areFiles)).2
  refine ⟨Resolution.ambiguity? (marker host :: more), ?_⟩
  rw [Resolution.resolve, isDirectory, Resolution.settled_of_spelled found formed nested.directory,
    Resolution.settled_of_spelled spelled formed directory]
  simp only [Bool.not_true, Bool.false_eq_true, reduceIte, markers, Resolution.attached, loaded]
  rfl

/-- The root that a host has by its marker file: the directory that is named there, without links where something
stands, or else the host itself. -/
structure RootOf (tree : Tree) (host : Location) (config : Config) (root : Path) : Prop where
  own : config.hostRoot = none → root = host.path
  named : ∀ name ∈ config.hostRoot, ∀ k, tree.resolve (host.path.join name) true = .ok k → tree.node? k ≠ none →
    root = k.path
  missing : ∀ name ∈ config.hostRoot, (∀ k, tree.resolve (host.path.join name) true = .ok k → tree.node? k = none) →
    root = host.path.join name

/-- A deployment in which the tool works on its host. -/
structure Deployed (tree : Tree) (host : Location) (tool : String) (config : Config) (context : Context) : Prop where
  mode : context.mode = .attached
  toolRoot : context.toolRoot = (host ++ [tool]).path
  hostRoot : RootOf tree host config context.hostRoot
  outputRoot : context.outputRoot = context.hostRoot.join tool
  metadata : context.metadata = some (.gather tree context.hostRoot)
  paths : context.paths = .derive context.outputRoot context.hostRoot

theorem marker_parent (nested : Nested tree host tool config) : (marker host).parent? = some host.path := by
  have isFile : IsFileName Config.fileName := by decide
  have areFiles : ∀ name ∈ host ++ [Config.fileName], IsFileName name := by
    intro name among
    rcases List.mem_append.1 among with above | last
    · exact nested.areFiles name above
    · rwa [List.mem_singleton.1 last]
  rw [marker, join_path areFiles, parent?_path areFiles]

theorem rootOf_marker (nested : Nested tree host tool config) :
    RootOf tree host config (Resolution.hostOf tree (marker host) config) := by
  rw [Resolution.hostOf, nested.marker_parent, Option.getD_some]
  constructor
  case own =>
    intro none
    rw [none, Option.elim_none]
  case named =>
    intro name among k led there
    rw [among, Option.elim_some, Resolution.settled, Tree.canonical, led]
    simp [bind, Except.bind, Option.isSome_iff_ne_none.2 there, pure, Except.pure, Except.toOption]
  case missing =>
    intro name among nowhere
    rw [among, Option.elim_some, Resolution.settled, Tree.canonical]
    cases led : tree.resolve (host.path.join name) true with
    | error fault => rfl
    | ok k => simp [bind, Except.bind, nowhere k led, throw, throwThe, MonadExceptOf.throw, Except.toOption]

theorem deployed (nested : Nested tree host tool config) :
    Deployed tree host tool config (context tree host tool config) := by
  have named : (host ++ [tool]).path.fileName? = some tool := by
    rw [(spelled_path nested.tool_areFiles).fileName?, List.getLast?_concat]
  exact ⟨rfl, rfl, nested.rootOf_marker, by simp [context, Context.attached, named], rfl, rfl⟩

/-- A run in the host and a run in the tool's directory or below work in the same deployment, in which the tool
works on the host of the marker file. -/
theorem resolve_alike (nested : Nested tree host tool config) (within : Within tree host tool below)
    {hostPath dirPath : Path} (fromHost : hostPath.Spells host) (fromTool : dirPath.Spells (host ++ tool :: below))
    (program program' : Option Path) :
    (∃ ambiguity, Resolution.resolve tree (ToolRoot.find tree hostPath program) hostPath Resolution.defaultDepth =
        .ok ⟨context tree host tool config, config, .marker (marker host), ambiguity⟩) ∧
      (∃ ambiguity, Resolution.resolve tree (ToolRoot.find tree dirPath program') dirPath Resolution.defaultDepth =
        .ok ⟨context tree host tool config, config, .marker (marker host), ambiguity⟩) ∧
      Deployed tree host tool config (context tree host tool config) := by
  have atHost : hostPath.Spelled (host ++ []) := by simpa using fromHost.spelled
  have hostThere : tree.node? (host ++ []) = some .directory := by simpa using nested.host_directory
  have host_run := nested.resolve_of_spelled (nested.find_of_host fromHost.spelled program) atHost
    hostThere (by simp [InTool]) (Nat.zero_le Resolution.defaultDepth)
  have tool_run := nested.resolve_of_spelled (nested.find_of_within within fromTool.spelled program')
    fromTool.spelled within.directory (by simp [InTool]) within.near
  exact ⟨host_run, tool_run, nested.deployed⟩

/-- A shop with marker files above it, in it and in the tool's directory. -/
def shop : Tree where
  items :=
    [(["srv"], ⟨.directory, 0⟩),
     (["srv", "arkival.config.json"], ⟨.file "\x7b\x7d".toUTF8, 0⟩),
     (["srv", "shop"], ⟨.directory, 0⟩),
     (["srv", "shop", "arkival.config.json"], ⟨.file "\x7b\x7d".toUTF8, 0⟩),
     (["srv", "shop", "src"], ⟨.directory, 0⟩),
     (["srv", "shop", "Arkival-V4"], ⟨.directory, 0⟩),
     (["srv", "shop", "Arkival-V4", "arkival.config.json"], ⟨.file "\x7b\x7d".toUTF8, 0⟩),
     (["srv", "shop", "Arkival-V4", "src"], ⟨.directory, 0⟩)]
  workingDir := ["srv"]

theorem shop_nested : Nested shop ["srv", "shop"] "Arkival-V4" .default where
  proper := .of_items (by decide) (by decide) (by decide) (by decide)
  unlinked := Tree.unlinked_of_items (by simp [shop])
  plain := by decide
  marked := ⟨"\x7b\x7d".toUTF8, "\x7b\x7d", by rfl, by decide +kernel, by decide +kernel⟩
  directory := by decide
  canonical := by decide
  only := by
    intro name directory canonical
    have listed : ["srv", "shop"] ++ [name] ∈ shop.items.map Prod.fst :=
      (Tree.node?_ne_none_iff (by simp)).1 (by rw [directory]; exact Option.some_ne_none _)
    have names : name = "arkival.config.json" ∨ name = "src" ∨ name = "Arkival-V4" := by
      simpa [shop] using listed
    rcases names with rfl | rfl | rfl
    · exact absurd canonical (by decide)
    · exact absurd canonical (by decide)
    · rfl

def shopPath : Path := ⟨"/srv/shop/"⟩

def sourcePath : Path := ⟨"/srv//shop/./Arkival-V4/src"⟩

/-- A run in the shop and one in its tool agree on the shop as the host. -/
theorem resolve_alike_shop :
    Nested shop ["srv", "shop"] "Arkival-V4" .default ∧ Within shop ["srv", "shop"] "Arkival-V4" ["src"] ∧
      shopPath.Spells ["srv", "shop"] ∧ sourcePath.Spells (["srv", "shop"] ++ "Arkival-V4" :: ["src"]) ∧
      ∃ context,
        (∃ ambiguity, Resolution.resolve shop (ToolRoot.find shop shopPath none) shopPath Resolution.defaultDepth =
          .ok ⟨context, .default, .marker (marker ["srv", "shop"]), ambiguity⟩) ∧
        (∃ ambiguity, Resolution.resolve shop (ToolRoot.find shop sourcePath none) sourcePath Resolution.defaultDepth =
          .ok ⟨context, .default, .marker (marker ["srv", "shop"]), ambiguity⟩) ∧
        context.mode = .attached ∧ context.hostRoot = ⟨"/srv/shop"⟩ ∧
        context.outputRoot = ⟨"/srv/shop/Arkival-V4"⟩ := by
  have within : Within shop ["srv", "shop"] "Arkival-V4" ["src"] := ⟨by decide, by decide, by decide⟩
  have fromHost : shopPath.Spells ["srv", "shop"] := by decide
  have fromTool : sourcePath.Spells (["srv", "shop"] ++ "Arkival-V4" :: ["src"]) := by decide
  obtain ⟨hostRun, toolRun, deployed⟩ := resolve_alike shop_nested within fromHost fromTool none none
  have hostRoot := deployed.hostRoot.own rfl
  have outputRoot := deployed.outputRoot
  rw [hostRoot] at outputRoot
  exact ⟨shop_nested, within, fromHost, fromTool, _, hostRun, toolRun, deployed.mode, hostRoot.trans (by decide),
    outputRoot.trans (by decide)⟩

end Nested

end Waymark
