import CheatCodes.Player
/-!
A world of hexagonal nodes that wraps around its edges. Nodes are stored row by row; rows with an
odd `y` are shifted half a node to the east. Every change that the game may see is recorded.
-/
namespace CheatCodes

inductive BuildingKind where
  | headquarters
  | storehouse
  | woodcutter
  | quarry
  | sawmill
  | barracks
  | fortress
  | harborBuilding
  deriving DecidableEq, Repr, Inhabited

instance : Named BuildingKind where
  members := [.headquarters, .storehouse, .woodcutter, .quarry, .sawmill, .barracks, .fortress,
    .harborBuilding]
  name
    | .headquarters => "Headquarters"
    | .storehouse => "Storehouse"
    | .woodcutter => "Woodcutter"
    | .quarry => "Quarry"
    | .sawmill => "Sawmill"
    | .barracks => "Barracks"
    | .fortress => "Fortress"
    | .harborBuilding => "HarborBuilding"
  find_name a := by cases a <;> rfl

structure Building where
  kind : BuildingKind
  owner : PlayerId
  nation : Nation
  isTent : Bool
  deriving DecidableEq, Repr, Inhabited

/-- What stands on a node; the environment is trees, stones and decoration. -/
inductive NodeObject where
  | nothing
  | environment
  | building (b : Building)
  deriving DecidableEq, Repr, Inhabited

def NodeObject.building? : NodeObject → Option Building
  | .building b => some b
  | _ => none

def NodeObject.belongsTo (object : NodeObject) (p : PlayerId) : Bool :=
  match object with
  | .building b => b.owner = p
  | _ => false

structure Node where
  owner : Option PlayerId
  quality : Quality
  resource : Resource
  object : NodeObject
  deriving DecidableEq, Repr, Inhabited

def Node.open : Node :=
  ⟨none, .castle, ⟨.nothing, 0⟩, .nothing⟩

inductive Event where
  | territoryClaimed (center : Point) (radius : UInt16) (owner : PlayerId)
  | buildingCreated (pt : Point) (kind : BuildingKind) (owner : PlayerId)
  | buildingDestroyed (pt : Point) (kind : BuildingKind) (owner : PlayerId)
  | objectCleared (pt : Point)
  | visibilityChanged
  deriving DecidableEq, Repr, Inhabited

structure World where
  width : UInt16
  height : UInt16
  nodes : Array Node
  players : Array Player
  events : Array Event
  deriving DecidableEq, Repr, Inhabited

namespace World

def empty (width height : UInt16) : World :=
  ⟨width, height, Array.replicate (width.toNat * height.toNat) .open, #[], #[]⟩

/-! Points and their places in the rows. -/

def contains (w : World) (pt : Point) : Bool :=
  pt.x < w.width && pt.y < w.height

def index? (w : World) (pt : Point) : Option Nat :=
  if w.contains pt then some (pt.y.toNat * w.width.toNat + pt.x.toNat) else none

def points (w : World) : List Point :=
  (List.range w.height.toNat).flatMap fun y =>
    (List.range w.width.toNat).map fun x => ⟨x.toUInt16, y.toUInt16⟩

def wrap (size : UInt16) (coordinate : UInt16) (d : Int) : UInt16 :=
  (((coordinate.toNat : Int) + d) % (max size.toNat 1 : Nat)).toNat.toUInt16

def offset (w : World) (pt : Point) (dx dy : Int) : Point :=
  ⟨wrap w.width pt.x dx, wrap w.height pt.y dy⟩

/-- The six nodes around a point; odd rows sit half a node further east. -/
def neighbours (w : World) (pt : Point) : List Point :=
  let shift : Int := pt.y.toNat % 2
  [w.offset pt (-1) 0, w.offset pt (shift - 1) (-1), w.offset pt shift (-1),
    w.offset pt 1 0, w.offset pt shift 1, w.offset pt (shift - 1) 1]

/-! Questions. Points outside the map and unknown players get neutral answers. -/

def node? (w : World) (pt : Point) : Option Node :=
  (w.index? pt).bind fun i => w.nodes[i]?

def object? (w : World) (pt : Point) : Option NodeObject :=
  (w.node? pt).map (·.object)

def owner? (w : World) (pt : Point) : Option PlayerId :=
  (w.node? pt).bind (·.owner)

def quality (w : World) (pt : Point) : Quality :=
  ((w.node? pt).map (·.quality)).getD .nothing

def player? (w : World) (p : PlayerId) : Option Player :=
  w.players[p.index]?

def control? (w : World) (p : PlayerId) : Option Control :=
  (w.player? p).map (·.control)

def nation? (w : World) (p : PlayerId) : Option Nation :=
  (w.player? p).map (·.nation)

def hq? (w : World) (p : PlayerId) : Option Point :=
  (w.player? p).bind (·.hq)

def hqIsTent (w : World) (p : PlayerId) : Bool :=
  ((w.hq? p).bind w.object?).any fun object => object.building?.any (·.isTent)

/-- Exactly one human takes part. -/
def isSinglePlayer (w : World) : Bool :=
  w.players.toList.countP (·.control = .human) == 1

def buildingsOf (w : World) (p : PlayerId) : List Point :=
  w.points.filter fun pt => (w.object? pt).any (·.belongsTo p)

def buildingCount (w : World) (p : PlayerId) : Nat :=
  (w.buildingsOf p).length

def playersWhere (w : World) (holds : Control → Bool) : PlayerSet :=
  .ofList ((List.range w.players.size).filterMap fun i =>
    (PlayerId.ofIndex? i).filter fun p => (w.control? p).any holds)

/-! Changes of single nodes and players, none of them recorded. -/

def editNode (w : World) (pt : Point) (f : Node → Node) : World :=
  match w.index? pt with
  | some i => { w with nodes := w.nodes.modify i f }
  | none => w

def editPlayer (w : World) (p : PlayerId) (f : Player → Player) : World :=
  { w with players := w.players.modify p.index f }

def setObject (w : World) (pt : Point) (object : NodeObject) : World :=
  w.editNode pt ({ · with object })

def setResource (w : World) (pt : Point) (resource : Resource) : World :=
  w.editNode pt ({ · with resource })

def setQuality (w : World) (pt : Point) (quality : Quality) : World :=
  w.editNode pt ({ · with quality })

def setOwner (w : World) (pt : Point) (owner : Option PlayerId) : World :=
  w.editNode pt ({ · with owner })

/-- Answers whether the player is known. -/
def setControl (w : World) (p : PlayerId) (control : Control) : Bool × World :=
  ((w.player? p).isSome, w.editPlayer p ({ · with control }))

/-- Adds a slot and answers its id, unless every id is taken. -/
def addPlayer (w : World) (nation : Nation) (control : Control) : Option PlayerId × World :=
  match PlayerId.ofIndex? w.players.size with
  | some id => (some id, { w with players := w.players.push ⟨id, nation, control, none⟩ })
  | none => (none, w)

def record (w : World) (e : Event) : World :=
  { w with events := w.events.push e }

def drainEvents (w : World) : Array Event × World :=
  (w.events, { w with events := #[] })

@[simp] theorem editNode_players (w : World) (pt : Point) (f : Node → Node) :
    (w.editNode pt f).players = w.players := by
  unfold editNode; split <;> rfl

@[simp] theorem editNode_events (w : World) (pt : Point) (f : Node → Node) :
    (w.editNode pt f).events = w.events := by
  unfold editNode; split <;> rfl

@[simp] theorem editNode_width (w : World) (pt : Point) (f : Node → Node) :
    (w.editNode pt f).width = w.width := by
  unfold editNode; split <;> rfl

@[simp] theorem editNode_height (w : World) (pt : Point) (f : Node → Node) :
    (w.editNode pt f).height = w.height := by
  unfold editNode; split <;> rfl

@[simp] theorem editNode_nodes_size (w : World) (pt : Point) (f : Node → Node) :
    (w.editNode pt f).nodes.size = w.nodes.size := by
  unfold editNode; split <;> simp

@[simp] theorem editPlayer_nodes (w : World) (p : PlayerId) (f : Player → Player) :
    (w.editPlayer p f).nodes = w.nodes := rfl

@[simp] theorem editPlayer_events (w : World) (p : PlayerId) (f : Player → Player) :
    (w.editPlayer p f).events = w.events := rfl

@[simp] theorem record_nodes (w : World) (e : Event) : (w.record e).nodes = w.nodes := rfl

@[simp] theorem record_players (w : World) (e : Event) : (w.record e).players = w.players := rfl

@[simp] theorem record_events (w : World) (e : Event) :
    (w.record e).events = w.events.push e := rfl

end World

end CheatCodes
