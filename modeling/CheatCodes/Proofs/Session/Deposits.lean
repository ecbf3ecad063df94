import CheatCodes.Proofs.Session.Switches
import CheatCodes.Summary
import CheatCodes.World.View
import Mathlib.Data.List.Basic
/-!
The deposits of a world, and those of them that show. A walk over the map row by row lists every
deposit once; what shows is this list without the resources that the reveal mode keeps back. A
resource shows from its own mode on, so a later mode keeps all that an earlier one showed.
-/
namespace CheatCodes

def ResourceKind.firstShown : ResourceKind → Option RevealMode
  | .nothing => none
  | .iron | .gold | .coal | .granite => some .ores
  | .fish => some .fish
  | .water => some .water

namespace RevealMode

theorem shows_iff {m : RevealMode} {kind : ResourceKind} :
    m.shows kind = true ↔ ∃ first, kind.firstShown = some first ∧ first.rank ≤ m.rank := by
  cases m <;> cases kind <;> decide

theorem shows_of_le {m later : RevealMode} (after : m.rank ≤ later.rank) {kind : ResourceKind}
    (shown : m.shows kind = true) : later.shows kind = true := by
  obtain ⟨first, begins, low⟩ := shows_iff.1 shown
  exact shows_iff.2 ⟨first, begins, Nat.le_trans low after⟩

theorem rank_le_next {m : RevealMode} (more : m ≠ .water) : m.rank ≤ m.next.rank := by
  cases m with
  | water => exact absurd rfl more
  | nothing | ores | fish => decide

end RevealMode

namespace World

def deposit? (w : World) (pt : Point) : Option RevealedDeposit :=
  (w.node? pt).bind fun n => if 0 < n.resource.amount then some ⟨pt, n.resource⟩ else none

def deposits (w : World) : List RevealedDeposit :=
  w.points.filterMap w.deposit?

theorem deposit?_eq_some {w : World} {pt : Point} {d : RevealedDeposit} :
    w.deposit? pt = some d ↔
      d.pt = pt ∧ ∃ n, w.node? pt = some n ∧ d.resource = n.resource ∧ 0 < n.resource.amount := by
  rw [deposit?, Option.bind_eq_some_iff]
  constructor
  · rintro ⟨n, found, kept⟩
    split at kept
    · rename_i some
      rw [← Option.some.inj kept]
      exact ⟨rfl, n, found, rfl, some⟩
    · cases kept
  · rintro ⟨rfl, n, found, same, some⟩
    refine ⟨n, found, ?_⟩
    rw [if_pos some, ← same]

theorem mem_deposits {w : World} {d : RevealedDeposit} :
    d ∈ w.deposits ↔
      ∃ n, w.node? d.pt = some n ∧ d.resource = n.resource ∧ 0 < n.resource.amount := by
  simp only [deposits, List.mem_filterMap, deposit?_eq_some, mem_points]
  constructor
  · rintro ⟨pt, _, rfl, lies⟩
    exact lies
  · rintro ⟨n, found, lies⟩
    exact ⟨d.pt, contains_of_node? found, rfl, n, found, lies⟩

theorem pairwise_deposits (w : World) :
    w.deposits.Pairwise fun d e => d.pt.Before e.pt := by
  rw [deposits, List.pairwise_filterMap]
  refine w.pairwise_points.imp fun before d here e there => ?_
  rw [(deposit?_eq_some.1 here).1, (deposit?_eq_some.1 there).1]
  exact before

end World

namespace Game

theorem revealed_eq_filter (g : Game) :
    g.revealed = g.world.deposits.filter fun d => g.cheats.reveals d.resource.kind := by
  rw [World.deposits, List.filter_filterMap, revealed]
  congr 1
  funext pt
  rw [World.deposit?]
  cases g.world.node? pt with
  | none => rfl
  | some n =>
    by_cases lies : 0 < n.resource.amount
    · simp [lies, Option.filter]
    · simp [lies]

theorem mem_revealed {g : Game} {d : RevealedDeposit} :
    d ∈ g.revealed ↔
      ∃ n, g.world.node? d.pt = some n ∧ d.resource = n.resource ∧ 0 < n.resource.amount ∧
        g.cheats.reveals n.resource.kind = true := by
  rw [revealed_eq_filter, List.mem_filter, World.mem_deposits]
  constructor
  · rintro ⟨⟨n, found, same, lies⟩, shown⟩
    exact ⟨n, found, same, lies, same ▸ shown⟩
  · rintro ⟨n, found, same, lies, shown⟩
    exact ⟨⟨n, found, same, lies⟩, same ▸ shown⟩

theorem pairwise_revealed (g : Game) :
    g.revealed.Pairwise fun d e => d.pt.Before e.pt := by
  rw [revealed_eq_filter]
  exact g.world.pairwise_deposits.filter _

def storing (g : Game) (m : RevealMode) : Game :=
  { g with cheats.storedReveal := m }

theorem reveals_storing (g : Game) (m : RevealMode) (kind : ResourceKind) :
    (g.storing m).cheats.reveals kind = (g.cheats.cheatMode && m.shows kind) := by
  cases mode : g.cheats.cheatMode <;>
    simp [Cheats.reveals, Cheats.reveal, storing, mode, RevealMode.shows]

theorem revealed_storing_sublist (g : Game) {m later : RevealMode}
    (after : m.rank ≤ later.rank) : (g.storing m).revealed.Sublist (g.storing later).revealed := by
  rw [revealed_eq_filter, revealed_eq_filter]
  refine List.monotone_filter_right _ fun d shown => ?_
  rw [reveals_storing, Bool.and_eq_true] at shown ⊢
  exact ⟨shown.1, RevealMode.shows_of_le after shown.2⟩

/-- What shows is listed once, row by row: the deposits whose resource the mode shows. Without cheat
mode nothing shows, and every mode but the first shows what the one before it showed. -/
theorem revealed_exact (g : Game) :
    (g.revealed.Pairwise fun d e => d.pt.Before e.pt) ∧ (g.revealed.map (·.pt)).Nodup ∧
    (∀ d, d ∈ g.revealed ↔ g.world.contains d.pt = true ∧
      ∃ n, g.world.node? d.pt = some n ∧ d.resource = n.resource ∧ 0 < n.resource.amount ∧
        ∃ first, n.resource.kind.firstShown = some first ∧ first.rank ≤ g.cheats.reveal.rank) ∧
    (g.cheats.cheatMode = false → g.revealed = []) ∧
    (g.storing .nothing).revealed.Sublist (g.storing .ores).revealed ∧
    (g.storing .ores).revealed.Sublist (g.storing .fish).revealed ∧
    (g.storing .fish).revealed.Sublist (g.storing .water).revealed ∧
    (g.cheats.storedReveal ≠ .water → g.revealed.Sublist g.advanceReveal.revealed) := by
  have ordered := g.pairwise_revealed
  refine ⟨ordered, ?_, fun d => ?_, fun off => ?_, g.revealed_storing_sublist (by decide),
    g.revealed_storing_sublist (by decide), g.revealed_storing_sublist (by decide), fun more =>
    g.revealed_storing_sublist (RevealMode.rank_le_next more)⟩
  · rw [List.nodup_iff_pairwise_ne, List.pairwise_map]
    refine ordered.imp fun {d e} before same => ?_
    rw [Point.Before, same] at before
    simp at before
  · simp only [mem_revealed, Cheats.reveals, RevealMode.shows_iff]
    refine (and_iff_right_of_imp ?_).symm
    rintro ⟨n, found, _⟩
    exact World.contains_of_node? found
  · rw [revealed_eq_filter, List.filter_eq_nil_iff]
    intro d _
    simp [Cheats.reveals, Cheats.reveal, off, RevealMode.shows]

theorem revealed_exact_shore :
    let shore := ((World.empty 2 1).setResource ⟨0, 0⟩ ⟨.gold, 5⟩).setResource ⟨1, 0⟩ ⟨.fish, 3⟩
    let c := { Cheats.ofConfig .standard with cheatMode := true, storedReveal := .ores }
    let g : Game := ⟨c, shore, .inGame ⟨0⟩⟩
    g.cheats.storedReveal ≠ .water ∧ g.revealed = [⟨⟨0, 0⟩, ⟨.gold, 5⟩⟩] ∧
      g.advanceReveal.revealed = [⟨⟨0, 0⟩, ⟨.gold, 5⟩⟩, ⟨⟨1, 0⟩, ⟨.fish, 3⟩⟩] ∧
      g.revealed.Sublist g.advanceReveal.revealed ∧
      Game.revealed { g with cheats.cheatMode := false } = [] := by
  intro shore c g
  obtain ⟨_, _, _, _, _, _, _, advanced⟩ := revealed_exact g
  obtain ⟨_, _, _, silent, _⟩ := revealed_exact { g with cheats.cheatMode := false }
  exact ⟨by decide, by decide, by decide, advanced (by decide), silent rfl⟩

end Game

end CheatCodes
