import CheatCodes.Proofs.Saved.RoundTrip
import CheatCodes.Proofs.World.Headquarters
import CheatCodes.Proofs.World.Replay
/-!
What holds of every world from its making on: its nodes fill the rows, its players stand in the
order of their ids, and headquarters slots point into the map. All changes come down to edits of
single nodes and players, which keep the numbers of both; so no point and no id ever leads past
the end of what is stored.
-/
namespace CheatCodes.World
open Json (encode decode?)

/-- All that can be done to a world, fixtures and a reload of its saved form included. -/
inductive Operation where
  | change (a : Change)
  | addPlayer (nation : Nation) (control : Control)
  | setControl (p : PlayerId) (control : Control)
  | setObject (pt : Point) (object : NodeObject)
  | setResource (pt : Point) (resource : Resource)
  | setQuality (pt : Point) (quality : Quality)
  | editNode (pt : Point) (f : Node → Node)
  | drainEvents
  | reload

/-- Only a reload could fail. -/
def operate? (w : World) : Operation → Option World
  | .change a => some (w.change a)
  | .addPlayer nation control => some (w.addPlayer nation control).2
  | .setControl p control => some (w.setControl p control).2
  | .setObject pt object => some (w.setObject pt object)
  | .setResource pt resource => some (w.setResource pt resource)
  | .setQuality pt quality => some (w.setQuality pt quality)
  | .editNode pt f => some (w.editNode pt f)
  | .drainEvents => some w.drainEvents.2
  | .reload => decode? (encode w)

def operateAll? (w : World) (operations : List Operation) : Option World :=
  operations.foldlM operate? w

structure WellFormed (width height : UInt16) (w : World) : Prop where
  width_eq : w.width = width
  height_eq : w.height = height
  nodes_size : w.nodes.size = width.toNat * height.toNat
  players_size : w.players.size ≤ 256
  numbered : w.Numbered
  hq_inside : ∀ player ∈ w.players, ∀ pt, player.hq = some pt → w.contains pt = true

variable {width height : UInt16} {w w' : World}

theorem wellFormed_empty (width height : UInt16) :
    (empty width height).WellFormed width height where
  width_eq := rfl
  height_eq := rfl
  nodes_size := Array.size_replicate
  players_size := Nat.zero_le _
  numbered := numbered_empty width height
  hq_inside _ member := by simp [empty] at member

theorem contains_congr (columns : w'.width = w.width) (rows : w'.height = w.height) (pt : Point) :
    w'.contains pt = w.contains pt := by
  simp only [contains, columns, rows]

theorem node?_isSome_of_filled (filled : w.nodes.size = w.width.toNat * w.height.toNat)
    (pt : Point) : (w.node? pt).isSome = w.contains pt := by
  rw [← index?_isSome]
  cases place : w.index? pt with
  | none => simp [node?, place]
  | some i =>
    have inside : i < w.nodes.size := by
      rw [filled]
      exact index?_lt place
    simp [node?, place, inside]

namespace WellFormed

theorem congr (h : w.WellFormed width height) (columns : w'.width = w.width)
    (rows : w'.height = w.height) (nodes : w'.nodes.size = w.nodes.size)
    (players : w'.players = w.players) : w'.WellFormed width height where
  width_eq := columns.trans h.width_eq
  height_eq := rows.trans h.height_eq
  nodes_size := nodes.trans h.nodes_size
  players_size := players ▸ h.players_size
  numbered := h.numbered.congr (by simp only [roster, players])
  hq_inside player member pt slot := by
    rw [contains_congr columns rows]
    exact h.hq_inside player (players ▸ member) pt slot

theorem editNode (h : w.WellFormed width height) (pt : Point) (f : Node → Node) :
    (w.editNode pt f).WellFormed width height :=
  h.congr (editNode_width ..) (editNode_height ..) (editNode_nodes_size ..) (editNode_players ..)

theorem record (h : w.WellFormed width height) (e : Event) :
    (w.record e).WellFormed width height :=
  h.congr rfl rfl rfl rfl

theorem editPlayer (h : w.WellFormed width height) (p : PlayerId) {f : Player → Player}
    (id : ∀ q, (f q).id = q.id)
    (slot : ∀ q pt, (f q).hq = some pt → q.hq = some pt ∨ w.contains pt = true) :
    (w.editPlayer p f).WellFormed width height where
  width_eq := h.width_eq
  height_eq := h.height_eq
  nodes_size := h.nodes_size
  players_size := by simpa [World.editPlayer] using h.players_size
  numbered i inside := by
    have before : i < w.players.size := by simpa [World.editPlayer] using inside
    have place := h.numbered i before
    simp only [World.editPlayer, Array.getElem_modify]
    split
    · rw [id]
      exact place
    · exact place
  hq_inside player member pt held := by
    obtain ⟨i, inside, rfl⟩ := Array.mem_iff_getElem.1 member
    have before : i < w.players.size := by simpa [World.editPlayer] using inside
    have kept := h.hq_inside w.players[i] (Array.getElem_mem before) pt
    simp only [World.editPlayer, Array.getElem_modify] at held
    split at held
    · exact (slot _ _ held).elim kept fun here => here
    · exact kept held

theorem addPlayer (h : w.WellFormed width height) (nation : Nation) (control : Control) :
    (w.addPlayer nation control).2.WellFormed width height := by
  have numbered := h.numbered.addPlayer nation control
  unfold World.addPlayer at numbered ⊢
  split at numbered
  · rename_i id fresh
    have few : w.players.size < 256 := by
      unfold PlayerId.ofIndex? at fresh
      split at fresh
      · assumption
      · cases fresh
    refine ⟨h.width_eq, h.height_eq, h.nodes_size, ?_, numbered, fun player member pt held => ?_⟩
    · rw [Array.size_push]
      omega
    · rcases Array.mem_push.1 member with old | rfl
      · exact h.hq_inside player old pt held
      · cases held
  · exact h

theorem destroyObject (h : w.WellFormed width height) (pt : Point) :
    (w.destroyObject pt).WellFormed width height := by
  unfold World.destroyObject
  split
  · exact h
  · exact h
  · exact (h.editNode ..).record _
  · refine ((h.editNode ..).editPlayer _ (fun q => ?_) fun q qt held => ?_).record _
    · unfold Player.loseHq
      split <;> rfl
    · unfold Player.loseHq at held
      split at held
      · cases held
      · exact .inl held

theorem createBuilding (h : w.WellFormed width height) (pt : Point) (b : Building) :
    (w.createBuilding pt b).WellFormed width height := by
  unfold World.createBuilding
  split
  · rename_i inside
    have built := h.editNode pt ({ · with object := .building b })
    refine WellFormed.record ?_ _
    split
    · refine built.editPlayer _ (fun _ => rfl) fun q qt held => ?_
      have here : q.hq.getD pt = qt := Option.some.inj held
      cases slot : q.hq with
      | some old =>
        rw [slot] at here
        exact .inl (congrArg some here)
      | none =>
        rw [slot] at here
        obtain rfl : pt = qt := here
        exact .inr (by rw [contains_congr (editNode_width ..) (editNode_height ..), inside])
    · exact built
  · exact h

theorem foldl {α : Type} {f : World → α → World}
    (step : ∀ w a, w.WellFormed width height → (f w a).WellFormed width height) (as : List α)
    (h : w.WellFormed width height) : (as.foldl f w).WellFormed width height := by
  induction as generalizing w with
  | nil => exact h
  | cons a as ih => exact ih (step w a h)

theorem claimTerritory (h : w.WellFormed width height) (center : Point) (radius : UInt16)
    (owner : PlayerId) : (w.claimTerritory center radius owner).WellFormed width height :=
  (h.foldl (fun _ pt g => g.editNode pt _) _).record _

theorem change (h : w.WellFormed width height) (a : Change) :
    (w.change a).WellFormed width height := by
  cases a with
  | claimTerritory center radius owner => exact h.claimTerritory center radius owner
  | foundHeadquarters p pt =>
    simp only [World.change, foundHeadquarters]
    split
    · exact h
    · exact (h.claimTerritory pt hqRadius p).createBuilding pt _
  | createBuilding pt b => exact h.createBuilding pt b
  | destroyObject pt => exact h.destroyObject pt
  | destroyBuildingsOf p => exact h.foldl (fun _ pt g => g.destroyObject pt) (w.buildingsOf p)
  | notifyVisibility => exact h.record .visibilityChanged

theorem operate (h : w.WellFormed width height) (a : Operation) :
    ∃ w', w.operate? a = some w' ∧ w'.WellFormed width height := by
  cases a with
  | change a => exact ⟨_, rfl, h.change a⟩
  | addPlayer nation control => exact ⟨_, rfl, h.addPlayer nation control⟩
  | setControl p control => exact ⟨_, rfl, h.editPlayer p (fun _ => rfl) fun _ _ => .inl⟩
  | setObject pt object => exact ⟨_, rfl, h.editNode pt _⟩
  | setResource pt resource => exact ⟨_, rfl, h.editNode pt _⟩
  | setQuality pt quality => exact ⟨_, rfl, h.editNode pt _⟩
  | editNode pt f => exact ⟨_, rfl, h.editNode pt f⟩
  | drainEvents => exact ⟨_, rfl, h.congr rfl rfl rfl rfl⟩
  | reload => exact ⟨_, decode_encode_world w, h.congr rfl rfl rfl rfl⟩

theorem operateAll (h : w.WellFormed width height) (operations : List Operation) :
    ∃ w', w.operateAll? operations = some w' ∧ w'.WellFormed width height := by
  induction operations generalizing w with
  | nil => exact ⟨w, rfl, h⟩
  | cons a operations ih =>
    obtain ⟨next, done, kept⟩ := h.operate a
    obtain ⟨w', rest, reached⟩ := ih kept
    exact ⟨w', by rw [operateAll?, List.foldlM_cons, done]; exact rest, reached⟩

theorem filled (h : w.WellFormed width height) :
    w.nodes.size = w.width.toNat * w.height.toNat := by
  rw [h.width_eq, h.height_eq, h.nodes_size]

theorem index_lt (h : w.WellFormed width height) {pt : Point} {i : Nat}
    (place : w.index? pt = some i) : i < w.nodes.size := by
  rw [h.filled]
  exact index?_lt place

theorem node?_isSome (h : w.WellFormed width height) (pt : Point) :
    (w.node? pt).isSome = w.contains pt :=
  node?_isSome_of_filled h.filled pt

theorem player_id (h : w.WellFormed width height) {p : PlayerId} {player : Player}
    (found : w.player? p = some player) : player.id = p := by
  obtain ⟨inside, rfl⟩ := Array.getElem?_eq_some_iff.1 found
  exact PlayerId.ext_index (h.numbered p.index inside)

end WellFormed

/-- Whatever is done to a new world, reloads included, succeeds and leaves it well-formed: every
point of the map has its node, no point leads past the last one, and an id finds its own player or
lies past the last one. -/
theorem operateAll_empty_wellFormed (width height : UInt16) (operations : List Operation) :
    ∃ w, (empty width height).operateAll? operations = some w ∧
      w.WellFormed width height ∧
      (∀ pt i, w.index? pt = some i → i < w.nodes.size) ∧
      (∀ pt, (w.node? pt).isSome = w.contains pt) ∧
      ∀ p, (∃ player, w.player? p = some player ∧ player.id = p) ↔ p.index < w.players.size := by
  obtain ⟨w, done, formed⟩ := (wellFormed_empty width height).operateAll operations
  refine ⟨w, done, formed, fun _ _ => formed.index_lt, formed.node?_isSome, fun p =>
    ⟨?_, fun inside => ?_⟩⟩
  · rintro ⟨player, found, _⟩
    exact (Array.getElem?_eq_some_iff.1 found).1
  · have found : w.player? p = some w.players[p.index] := Array.getElem?_eq_getElem inside
    exact ⟨_, found, formed.player_id found⟩

end CheatCodes.World
