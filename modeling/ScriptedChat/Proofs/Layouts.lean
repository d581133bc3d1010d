import Mathlib.Data.List.Basic
import ScriptedChat.Proofs.Tables
import ScriptedChat.Store.Memory

/-!
What a map hands out. It is the same bots however the map is laid out, and there is no order of
different bots in which no map hands them out. So nothing can be relied on in a list of bots but
what the list is sorted by: the oldest come first, and those of one age come in any order.
-/
namespace ScriptedChat

namespace Memory.Layout

/-- The map hands out every bot once. -/
theorem arrange_perm (layout : Layout) (bots : List Bot) : (layout.arrange bots).Perm bots :=
  List.mergeSort_perm bots _

theorem arrange_map (layout : Layout) {f : Bot → Bot} (hf : ∀ bot, (f bot).id = bot.id)
    (bots : List Bot) : (layout.arrange bots).map f = layout.arrange (bots.map f) := by
  refine List.map_mergeSort fun a _ b _ => ?_
  rw [hf, hf]

theorem arrange_flat (bots : List Bot) : flat.arrange bots = bots :=
  List.mergeSort_of_pairwise (List.pairwise_of_forall fun _ _ => rfl)

theorem arrange_pairwise (layout : Layout) (bots : List Bot) :
    (layout.arrange bots).Pairwise fun a b => layout.place a.id ≤ layout.place b.id := by
  have hsorted : (layout.arrange bots).Pairwise fun a b =>
      decide (layout.place a.id ≤ layout.place b.id) = true :=
    List.pairwise_mergeSort (by simp; omega) (by simp; omega) bots
  exact hsorted.imp of_decide_eq_true

/-- Every order of different bots is that of some layout. -/
theorem exists_arrange {bots others : List Bot} (hdistinct : (others.map Bot.id).Nodup)
    (hperm : others.Perm bots) : ∃ layout : Layout, layout.arrange bots = others := by
  let layout : Layout := ⟨fun id => (others.map Bot.id).idxOf id⟩
  have hplace (i : Nat) (hi : i < others.length) : layout.place others[i].id = i := by
    have hlength : i < (others.map Bot.id).length := by simpa using hi
    have hplace := hdistinct.idxOf_getElem i hlength
    rwa [List.getElem_map] at hplace
  have hplaces : others.Pairwise fun a b => layout.place a.id < layout.place b.id := by
    refine List.pairwise_iff_getElem.2 fun i j hi hj hij => ?_
    rw [hplace i hi, hplace j hj]
    exact hij
  have hsame : (layout.arrange bots).Perm others := (layout.arrange_perm bots).trans hperm.symm
  refine ⟨layout, hsame.eq_of_pairwise ?_ (layout.arrange_pairwise bots)
    (hplaces.imp Nat.le_of_lt)⟩
  intro a b ha hb hab hba
  obtain ⟨i, hi, rfl⟩ := List.getElem_of_mem (hsame.mem_iff.1 ha)
  obtain ⟨j, hj, rfl⟩ := List.getElem_of_mem hb
  rw [hplace i hi, hplace j hj] at hab hba
  congr 1
  omega

end Memory.Layout

namespace Bot

/-- Lists of the same bots in which only those of one age may have changed places. -/
structure SameUpToAge (bots others : List Bot) : Prop where
  perm : bots.Perm others
  ages : bots.map createdAt = others.map createdAt

theorem SameUpToAge.map {bots others : List Bot} (h : SameUpToAge bots others) {f : Bot → Bot}
    (hf : ∀ bot, (f bot).createdAt = bot.createdAt) :
    SameUpToAge (bots.map f) (others.map f) where
  perm := h.perm.map f
  ages := by
    have hages : createdAt ∘ f = createdAt := funext hf
    rw [List.map_map, List.map_map, hages, h.ages]

/-- Bots from the oldest to the youngest; those of one age stay in the order they came in. -/
def byAge (bots : List Bot) : List Bot :=
  bots.mergeSort fun a b => a.createdAt.le b.createdAt

theorem byAge_perm (bots : List Bot) : (byAge bots).Perm bots := List.mergeSort_perm bots _

theorem byAge_map {f : Bot → Bot} (hf : ∀ bot, (f bot).createdAt = bot.createdAt)
    (bots : List Bot) : (byAge bots).map f = byAge (bots.map f) := by
  refine List.map_mergeSort fun a _ b _ => ?_
  rw [hf, hf]

theorem ages_pairwise (bots : List Bot) :
    ((byAge bots).map createdAt).Pairwise fun s t => s.nanos ≤ t.nanos := by
  have hsorted : (byAge bots).Pairwise fun a b => a.createdAt.le b.createdAt = true :=
    List.pairwise_mergeSort (by simp [Time.le]; omega) (by simp [Time.le]; omega) bots
  exact List.pairwise_map.2 (hsorted.imp of_decide_eq_true)

/-- The same bots come out the same up to age, whatever order they come in. -/
theorem sameUpToAge_byAge {bots others : List Bot} (h : bots.Perm others) :
    SameUpToAge (byAge bots) (byAge others) := by
  have hperm : (byAge bots).Perm (byAge others) :=
    (byAge_perm bots).trans (h.trans (byAge_perm others).symm)
  refine ⟨hperm, (hperm.map createdAt).eq_of_pairwise ?_ (ages_pairwise bots)
    (ages_pairwise others)⟩
  rintro ⟨s⟩ ⟨t⟩ - - hst hts
  exact congrArg Time.mk (Int.le_antisymm hst hts)

/-- Bots that are the same up to age as bots in the order of their age are in that order too. -/
theorem SameUpToAge.byAge_eq {bots others : List Bot} (h : SameUpToAge (byAge bots) others) :
    byAge others = others := by
  have hages := ages_pairwise bots
  rw [h.ages, List.pairwise_map] at hages
  exact List.mergeSort_of_pairwise (hages.imp fun hle => decide_eq_true hle)

end Bot

namespace Memory

/-- The bots of an operator as they are listed. -/
def ownedBy (layout : Layout) (m : Memory) (owner : UserId) : List Bot :=
  Bot.byAge (layout.arrange (m.bots.rows.filter fun bot => bot.owner = owner))

theorem ownedBy_perm (layout : Layout) (m : Memory) (owner : UserId) :
    (m.ownedBy layout owner).Perm (m.bots.rows.filter fun bot => bot.owner = owner) :=
  (Bot.byAge_perm _).trans (layout.arrange_perm _)

/-- However the map is laid out, the list is the same up to age. -/
theorem ownedBy_sameUpToAge (layout layout' : Layout) (m : Memory) (owner : UserId) :
    Bot.SameUpToAge (m.ownedBy layout owner) (m.ownedBy layout' owner) :=
  Bot.sameUpToAge_byAge ((layout.arrange_perm _).trans (layout'.arrange_perm _).symm)

/-- The lists that an operator may be shown are all those that are the same up to age. -/
theorem exists_ownedBy_iff (layout : Layout) (m : Memory) (owner : UserId) (bots : List Bot) :
    (∃ layout', m.ownedBy layout' owner = bots) ↔
      Bot.SameUpToAge (m.ownedBy layout owner) bots := by
  constructor
  · rintro ⟨layout', rfl⟩
    exact m.ownedBy_sameUpToAge layout layout' owner
  · intro h
    have hperm := h.perm.symm.trans (m.ownedBy_perm layout owner)
    have hrows : ((m.bots.rows.filter fun bot => bot.owner = owner).map Bot.id).Nodup :=
      m.bots.keys_nodup.sublist (List.filter_sublist.map Bot.id)
    have hdistinct : (bots.map Bot.id).Nodup := (hperm.map Bot.id).nodup_iff.2 hrows
    obtain ⟨layout', harranged⟩ := Layout.exists_arrange hdistinct hperm
    refine ⟨layout', ?_⟩
    rw [ownedBy, harranged]
    exact h.byAge_eq

end Memory

end ScriptedChat
