import TokioSupervisor.Actor.Builder
import TokioSupervisor.Lib.Reports

/-!
# What `GraphBuilder::build` refuses

`faults` lists all that is wrong with a builder, in the order in which `build` looks for it. `build` fails
with the first fault, and a builder without faults is one that is `Valid`: its graph is built, with the maps
that `Wired` says.
-/

namespace TokioSupervisor
open Lib

namespace GraphBuilder

def actorFault (pre : List ActorSpec) (actor : ActorSpec) : List GraphBuildError :=
  (if actor.id.isEmpty then [.invalidConfig "actor id must not be empty"] else []) ++
  (if actor.id ∈ ids pre then [.duplicateActorId actor.id] else [])

def linkFault (actors : List ActorSpec) (link : String × String) : List GraphBuildError :=
  (if link.1 ∉ ids actors then [.unknownLinkSource link.1] else []) ++
  (if link.2 ∉ ids actors then [.unknownLinkTarget link.1 link.2] else [])

def ingressFault (actors : List ActorSpec) (pre : List (String × String)) (ingress : String × String) :
    List GraphBuildError :=
  (if ingress.1.isEmpty then [.invalidConfig "ingress name must not be empty"] else []) ++
  (if ingress.1 ∈ pre.map (·.1) then [.duplicateIngressName ingress.1] else []) ++
  (if ingress.2 ∉ ids actors then [.unknownIngressTarget ingress.1 ingress.2] else [])

/-- All that is wrong with a builder. -/
def faults (b : GraphBuilder) : List GraphBuildError :=
  (if b.name = some "" then [.invalidConfig "graph name must not be empty"] else []) ++
  ((if b.actors.isEmpty then [.emptyActors] else []) ++
  ((if b.mailboxCapacity = 0 then [.invalidConfig "mailbox capacity must be non-zero"] else []) ++
  (Lib.faults actorFault [] b.actors ++ (b.links.flatMap (linkFault b.actors) ++
  Lib.faults (ingressFault b.actors) [] b.ingresses))))

/-- A builder with nothing wrong. -/
structure Valid (b : GraphBuilder) : Prop where
  name : b.name ≠ some ""
  nonempty : b.actors ≠ []
  capacity : b.mailboxCapacity ≠ 0
  actorIds : ∀ actor ∈ b.actors, actor.id ≠ ""
  nodup : (ids b.actors).Nodup
  links : ∀ link ∈ b.links, link.1 ∈ ids b.actors ∧ link.2 ∈ ids b.actors
  ingressNames : ∀ ingress ∈ b.ingresses, ingress.1 ≠ ""
  ingressNodup : (b.ingresses.map (·.1)).Nodup
  targets : ∀ ingress ∈ b.ingresses, ingress.2 ∈ ids b.actors

section
variable {b : GraphBuilder} {as : List ActorSpec} {ls is : List (String × String)} {m m₀ : ActorMaps}
  {i : IngressMaps} {actorIds : Finset String}

theorem faults_eq_nil_iff : b.faults = [] ↔ b.Valid := by
  have hactors : Lib.faults actorFault [] b.actors = [] ↔ (∀ actor ∈ b.actors, actor.id ≠ "") ∧
      (b.actors.map (·.id)).Nodup ∧ ∀ actor ∈ b.actors, actor.id ∉ ([] : List ActorSpec).map (·.id) :=
    Lib.faults_eq_nil _ _ (fun pre actor => by simp [actorFault, ids]) _ _
  have hlinks : b.links.flatMap (linkFault b.actors) = [] ↔
      ∀ link ∈ b.links, link.1 ∈ ids b.actors ∧ link.2 ∈ ids b.actors := by
    simp [linkFault, List.flatMap_eq_nil_iff]
  have hingresses : Lib.faults (ingressFault b.actors) [] b.ingresses = [] ↔
      (∀ ingress ∈ b.ingresses, ingress.1 ≠ "" ∧ ingress.2 ∈ ids b.actors) ∧
      (b.ingresses.map (·.1)).Nodup ∧ ∀ ingress ∈ b.ingresses, ingress.1 ∉ ([] : List (String × String)).map (·.1) :=
    Lib.faults_eq_nil _ _ (fun pre ingress => by simp [ingressFault]; tauto) _ _
  simp only [faults, List.append_eq_nil_iff, Reports.check_eq_nil, hactors, hlinks, hingresses]
  constructor
  · rintro ⟨hname, hempty, hcapacity, ⟨hids, hnodup, -⟩, hlinks, hi, hinodup, -⟩
    exact ⟨hname, by simpa using hempty, hcapacity, hids, hnodup, hlinks, fun i hm => (hi i hm).1, hinodup,
      fun i hm => (hi i hm).2⟩
  · rintro ⟨hname, hempty, hcapacity, hids, hnodup, hlinks, hi, hinodup, htargets⟩
    exact ⟨hname, by simpa using hempty, hcapacity, ⟨hids, hnodup, by simp⟩, hlinks,
      fun i hm => ⟨hi i hm, htargets i hm⟩, hinodup, by simp⟩

/-! ### The loops -/

theorem ActorsRead.reports (h : ActorsRead as m) (actor : ActorSpec) :
    Reports (GraphBuilder.addActor m actor) ((actorFault as actor).map Stop.error)
      (ActorsRead (as ++ [actor])) := by
  have hkeeps (m' : ActorMaps) (hs : GraphBuilder.addActor m actor = .ok m') : ActorsRead (as ++ [actor]) m' :=
    h.addActor hs
  unfold GraphBuilder.addActor at hkeeps ⊢
  simp only [actorFault, List.map_append, Reports.map_check, h.actorIds] at hkeeps ⊢
  refine .ite fun hid => .last fun hnew => .pure ?_
  exact hkeeps _ (by rw [if_neg hid, if_neg hnew])

theorem LinksRead.reports (ha : ActorsRead as m₀) (h : LinksRead m₀ ls m) (link : String × String) :
    Reports (GraphBuilder.addLink m link) ((linkFault as link).map Stop.error)
      (LinksRead m₀ (ls ++ [link])) := by
  have hkeeps (m' : ActorMaps) (hs : GraphBuilder.addLink m link = .ok m') : LinksRead m₀ (ls ++ [link]) m' :=
    h.addLink hs
  unfold GraphBuilder.addLink at hkeeps ⊢
  simp only [linkFault, List.map_append, Reports.map_check, h.actorIds, h.links, ha.actorIds] at hkeeps ⊢
  refine .ite fun hsource => .last fun htarget => ?_
  rw [not_not] at hsource
  rw [if_pos hsource]
  refine .pure (hkeeps _ ?_)
  rw [if_neg (not_not.2 hsource), if_neg htarget, if_pos hsource]

theorem IngressesRead.reports (h : IngressesRead actorIds is i) (ha : ∀ a, a ∈ actorIds ↔ a ∈ ids as)
    (ingress : String × String) :
    Reports (GraphBuilder.addIngress actorIds i ingress) ((ingressFault as is ingress).map Stop.error)
      (IngressesRead actorIds (is ++ [ingress])) := by
  have hkeeps (i' : IngressMaps) (hs : GraphBuilder.addIngress actorIds i ingress = .ok i') :
      IngressesRead actorIds (is ++ [ingress]) i' := h.addIngress hs
  unfold GraphBuilder.addIngress at hkeeps ⊢
  simp only [ingressFault, List.map_append, List.append_assoc, Reports.map_check, h.ingressNames, ha] at hkeeps ⊢
  refine .ite fun hname => .ite fun hnew => .last fun htarget => .pure ?_
  exact hkeeps _ (by rw [if_neg hname, if_neg hnew, if_neg htarget])

theorem graphName_reports (b : GraphBuilder) (anonymous : String) :
    Reports (b.graphName anonymous)
      ((if b.name = some "" then [.invalidConfig "graph name must not be empty"] else []).map Stop.error)
      (· = b.name.getD anonymous) := by
  unfold graphName
  rw [Reports.map_check]
  cases b.name with
  | none => exact .pure rfl
  | some name =>
    simp only [Option.some.injEq, ← String.isEmpty_iff]
    exact .last fun _ => .pure rfl

theorem build_reports (b : GraphBuilder) (anonymous : String) :
    Reports (b.build anonymous) (b.faults.map Stop.error) fun g =>
      b.Wired g ∧ g.graphName = b.name.getD anonymous := by
  have h : Reports (b.build anonymous) (b.faults.map Stop.error) fun g =>
      g.graphName = b.name.getD anonymous := by
    unfold build
    rw [faults]
    simp only [List.map_append]
    refine (graphName_reports b anonymous).bind fun graphName hname => ?_
    rw [Reports.map_check, Reports.map_check]
    refine .ite fun _ => .ite fun _ => ?_
    rw [map_faults, map_faults, ← faults_const _ _ [], map_faults]
    refine (Reports.foldlM (fun _ actor _ h => h.reports actor) _ actorsRead_nil).bind fun m ha => ?_
    refine (Reports.foldlM (fun _ link _ h => h.reports ha link) _ (linksRead_nil ha)).bind fun m' hl => ?_
    have hids (a : String) : a ∈ m'.actorIds ↔ a ∈ ids b.actors := by
      rw [hl.actorIds, ha.actorIds, List.nil_append]
    refine (Reports.foldlM (fun _ ingress _ h => h.reports hids ingress) _ ingressesRead_nil).bind_last fun i _ => ?_
    exact .pure hname
  exact h.of_ok fun g hb hname => ⟨build_wired hb, hname⟩

/-- `build` fails with the first fault, and of a builder without faults, which is any that is valid, it makes
a graph as `Wired` says, under its own name or the anonymous one. -/
theorem build_exact (b : GraphBuilder) (anonymous : String) :
    (b.faults = [] ↔ b.Valid) ∧ Reports (b.build anonymous) (b.faults.map Stop.error) fun g =>
      b.Wired g ∧ g.graphName = b.name.getD anonymous :=
  ⟨faults_eq_nil_iff, build_reports b anonymous⟩

/-- Two faults, the second of which a later loop would find. -/
example : faults (ofCalls [.ingress "in" "b", .actor ⟨"a"⟩, .link "a" "c"]) =
    [.unknownLinkTarget "a" "c", .unknownIngressTarget "in" "b"] := by
  decide +kernel

end

end GraphBuilder
end TokioSupervisor
