import CheatCodes.Json.Codec
import CheatCodes.World.Basic
/-!
The JSON forms of a world and its parts. The recorded events are not saved with a world.
-/
namespace CheatCodes
open Json (Codec encode decode?)

instance : Codec PlayerId where
  encode p := encode p.slot
  decode? j := (decode? j).map PlayerId.mk

instance : Codec PlayerSet where
  encode s := encode s.ids
  decode? j := (decode? j).map PlayerSet.ofList

instance : Codec Point where
  encode pt := .obj [("x", encode pt.x), ("y", encode pt.y)]
  decode? j :=
    if j.isRecord 2 then do
      return { x := ← j.required? 0 "x", y := ← j.required? 1 "y" }
    else none

instance : Codec Resource where
  encode r := .obj [("kind", encode r.kind), ("amount", encode r.amount)]
  decode? j :=
    if j.isRecord 2 then do
      return { kind := ← j.required? 0 "kind", amount := ← j.required? 1 "amount" }
    else none

instance : Codec Building where
  encode b := .obj [("kind", encode b.kind), ("owner", encode b.owner),
    ("nation", encode b.nation), ("is_tent", encode b.isTent)]
  decode? j :=
    if j.isRecord 4 then do
      return {
        kind := ← j.required? 0 "kind"
        owner := ← j.required? 1 "owner"
        nation := ← j.required? 2 "nation"
        isTent := ← j.required? 3 "is_tent" }
    else none

instance : Codec NodeObject where
  encode
    | .nothing => .str "Nothing"
    | .environment => .str "Environment"
    | .building b => .obj [("Building", encode b)]
  decode? j := do
    let (name, content) ← j.variant?
    match name with
    | "Nothing" => if Json.isBare content then some .nothing else none
    | "Environment" => if Json.isBare content then some .environment else none
    | "Building" => return .building (← decode? (← Json.body? content))
    | _ => none

instance : Codec Node where
  encode n := .obj [("owner", encode n.owner), ("bq", encode n.quality),
    ("resource", encode n.resource), ("object", encode n.object)]
  decode? j :=
    if j.isRecord 4 then do
      return {
        owner := ← j.optional? 0 "owner"
        quality := ← j.required? 1 "bq"
        resource := ← j.required? 2 "resource"
        object := ← j.required? 3 "object" }
    else none

instance : Codec Player where
  encode p := .obj [("id", encode p.id), ("nation", encode p.nation),
    ("state", encode p.control), ("hq", encode p.hq)]
  decode? j :=
    if j.isRecord 4 then do
      return {
        id := ← j.required? 0 "id"
        nation := ← j.required? 1 "nation"
        control := ← j.required? 2 "state"
        hq := ← j.optional? 3 "hq" }
    else none

instance : Codec World where
  encode w := .obj [("width", encode w.width), ("height", encode w.height),
    ("nodes", encode w.nodes), ("players", encode w.players)]
  decode? j :=
    if j.isRecord 4 then do
      return {
        width := ← j.required? 0 "width"
        height := ← j.required? 1 "height"
        nodes := ← j.required? 2 "nodes"
        players := ← j.required? 3 "players"
        events := #[] }
    else none

def decodeBuildingEvent (make : Point → BuildingKind → PlayerId → Event) (j : Json) :
    Option Event := do
  return make (← j.required? 0 "pt") (← j.required? 1 "kind") (← j.required? 2 "owner")

instance : Codec Event where
  encode
    | .territoryClaimed center radius owner =>
      .obj [("TerritoryClaimed",
        .obj [("center", encode center), ("radius", encode radius), ("owner", encode owner)])]
    | .buildingCreated pt kind owner =>
      .obj [("BuildingCreated",
        .obj [("pt", encode pt), ("kind", encode kind), ("owner", encode owner)])]
    | .buildingDestroyed pt kind owner =>
      .obj [("BuildingDestroyed",
        .obj [("pt", encode pt), ("kind", encode kind), ("owner", encode owner)])]
    | .objectCleared pt => .obj [("ObjectCleared", .obj [("pt", encode pt)])]
    | .visibilityChanged => .str "MapVisibilityChanged"
  decode? j := do
    let (name, content) ← j.variant?
    match name with
    | "TerritoryClaimed" =>
      let body ← Json.body? content
      return .territoryClaimed (← body.required? 0 "center") (← body.required? 1 "radius")
        (← body.required? 2 "owner")
    | "BuildingCreated" => decodeBuildingEvent .buildingCreated (← Json.body? content)
    | "BuildingDestroyed" => decodeBuildingEvent .buildingDestroyed (← Json.body? content)
    | "ObjectCleared" =>
      let body ← Json.body? content
      return .objectCleared (← body.required? 0 "pt")
    | "MapVisibilityChanged" => if Json.isBare content then some .visibilityChanged else none
    | _ => none

end CheatCodes
