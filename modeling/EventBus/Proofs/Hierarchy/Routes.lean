import Mathlib.Data.List.Shortlex
import EventBus.Proofs.Hierarchy.Distance

/-!
# Routes up a hierarchy

The place of a type in a closure is that of the first route to it: a shortest one, and among those
the one that takes the supertypes declared first. All routes of one length stand in a row, in
their order (`trails`), and a level of the walk is what is fresh in its row (`Row`).

The walk is done by turns, of which one takes the type that has been pending longest. They come to
an end whatever types there are, as long as only finitely many are above the one they start from
(`closure_breadth_first`).
-/

namespace EventBus

namespace Hierarchy

variable {h : Hierarchy} {t u v : EventType} {n : Nat} {seen pending ts : List EventType}
variable {up up' : EventType → List EventType} {ns ms : List Nat}

/-- The second type is a direct supertype of the first one. -/
def Above (up : EventType → List EventType) (t u : EventType) : Prop := u ∈ up t

/-- A way from `t` to a type, by the places that the steps have among the direct supertypes. -/
inductive Route (up : EventType → List EventType) (t : EventType) :
    List Nat → EventType → Prop where
  | here : Route up t [] t
  | up {ns : List Nat} {u v : EventType} {n : Nat} :
    Route up t ns u →
    (up u)[n]? = some v →
    Route up t (ns ++ [n]) v

/-- The first route to a type is shorter than any other or, where it is not, comes before it in the
order of the declarations. -/
structure FirstRoute (up : EventType → List EventType) (t : EventType) (ns : List Nat)
    (u : EventType) : Prop where
  route : Route up t ns u
  least : ∀ {ms}, Route up t ms u → ms = ns ∨ List.Shortlex (· < ·) ns ms

/-- The first route from `t` to the one type comes before that to the other. -/
def Earlier (up : EventType → List EventType) (t u v : EventType) : Prop :=
  ∃ ns ms, FirstRoute up t ns u ∧ FirstRoute up t ms v ∧ List.Shortlex (· < ·) ns ms

/-- What a route leads to is reached. -/
lemma Route.reaches (route : Route up t ns u) : Relation.ReflTransGen (Above up) t u := by
  induction route with
  | here => exact .refl
  | up _ step ih => exact ih.tail (List.mem_of_getElem? step)

/-- The last step of a route is one of its own. -/
lemma route_append_singleton :
    Route up t (ns ++ [n]) v ↔ ∃ u, Route up t ns u ∧ (up u)[n]? = some v := by
  constructor
  · intro route
    generalize whole : ns ++ [n] = ks at route
    cases route with
    | here => exact absurd whole (by simp)
    | up route step =>
      obtain ⟨rfl, last⟩ := List.append_inj' whole rfl
      cases last
      exact ⟨_, route, step⟩
  · rintro ⟨u, route, step⟩
    exact route.up step

/-- What is reached in some steps is reached by a route of that length. -/
lemma climbs_iff_route : h.Climbs t n u ↔ ∃ ns, Route h.supertypes t ns u ∧ ns.length = n := by
  constructor
  · intro climbs
    induction climbs with
    | here => exact ⟨[], .here, rfl⟩
    | up _ declares ih =>
      obtain ⟨ns, route, rfl⟩ := ih
      obtain ⟨i, step⟩ := List.mem_iff_getElem?.1 declares
      exact ⟨ns ++ [i], route.up step, List.length_append⟩
  · rintro ⟨ns, route, rfl⟩
    induction route with
    | here => exact .here
    | up _ step ih =>
      rw [List.length_append]
      exact ih.up (List.mem_of_getElem? step)

/-! ## The rows of routes -/

/-- The routes of so many steps with the types they lead to, in the order of the declarations. -/
def trails (up : EventType → List EventType) (t : EventType) : Nat → List (List Nat × EventType)
  | 0 => [([], t)]
  | n + 1 => (trails up t n).flatMap fun trail =>
      (up trail.2).zipIdx.map fun step => (trail.1 ++ [step.2], step.1)

/-- Where the routes of so many steps lead. -/
def row (up : EventType → List EventType) (t : EventType) (n : Nat) : List EventType :=
  (trails up t n).map (·.2)

/-- The next row are the types above those of the last one, in order. -/
lemma row_succ : row up t (n + 1) = (row up t n).flatMap up := by
  rw [row, trails, List.map_flatMap, row, List.flatMap_map]
  congr 1
  funext trail
  rw [List.map_map]
  exact List.zipIdx_map_fst 0 (up trail.2)

/-- The trails of a length are the routes of it. -/
lemma mem_trails : (ns, u) ∈ trails up t n ↔ Route up t ns u ∧ ns.length = n := by
  induction n generalizing ns u with
  | zero =>
    rw [trails, List.mem_singleton, Prod.mk.injEq, List.length_eq_zero_iff]
    constructor
    · rintro ⟨rfl, rfl⟩
      exact ⟨.here, rfl⟩
    · rintro ⟨route, rfl⟩
      generalize none : ([] : List Nat) = ks at route
      cases route with
      | here => exact ⟨rfl, rfl⟩
      | up => exact absurd none (by simp)
  | succ n ih =>
    simp only [trails, List.mem_flatMap, List.mem_map, Prod.exists, List.mem_zipIdx_iff_getElem?,
      Prod.mk.injEq]
    constructor
    · rintro ⟨ks, w, mem, v, i, step, rfl, rfl⟩
      obtain ⟨route, rfl⟩ := ih.1 mem
      exact ⟨route.up step, List.length_append⟩
    · rintro ⟨route, length⟩
      obtain rfl | ⟨ks, i, rfl⟩ := List.eq_nil_or_concat' ns
      · cases length
      · obtain ⟨w, route, step⟩ := route_append_singleton.1 route
        rw [List.length_append] at length
        exact ⟨ks, w, ih.2 ⟨route, Nat.succ.inj length⟩, u, i, step, rfl, rfl⟩

/-- What follows makes no difference between lists of one length that differ. -/
lemma lex_append {ks ks' : List Nat} (less : List.Lex (· < ·) ns ms)
    (same : ns.length = ms.length) : List.Lex (· < ·) (ns ++ ks) (ms ++ ks') := by
  induction less with
  | nil => cases same
  | cons _ ih => exact .cons (ih (Nat.succ.inj same))
  | rel less => exact .rel less

/-- The trails come in order. -/
lemma trails_sorted : (trails up t n).Pairwise fun p q => List.Lex (· < ·) p.1 q.1 := by
  induction n with
  | zero => exact List.pairwise_singleton ..
  | succ n ih =>
    rw [trails, List.pairwise_flatMap]
    constructor
    · intro trail _
      have places : ((up trail.2).zipIdx.map (·.2)).Pairwise (· < ·) := by
        rw [List.zipIdx_map_snd]
        exact List.pairwise_lt_range'
      rw [List.pairwise_map] at places ⊢
      apply places.imp
      intro _ _ less
      exact List.Lex.append_left _ (.rel less) _
    · apply ih.imp_of_mem
      intro p q mem mem' less x mem_x y mem_y
      obtain ⟨_, _, rfl⟩ := List.mem_map.1 mem_x
      obtain ⟨_, _, rfl⟩ := List.mem_map.1 mem_y
      apply lex_append less
      rw [(mem_trails.1 mem).2, (mem_trails.1 mem').2]

/-- The first place of a type in a row belongs to a route that comes before all others to the types
that have not been met by then. -/
lemma exists_route_of_row {pre post : List EventType} (whole : row up t n = pre ++ u :: post) :
    ∃ ns, Route up t ns u ∧ ns.length = n ∧ ∀ {v ms}, v ∉ pre → Route up t ms v → ms.length = n →
      ms = ns ∧ v = u ∨ List.Lex (· < ·) ns ms := by
  obtain ⟨before, _, split, rfl, rest⟩ := List.map_eq_append_iff.1 whole
  obtain ⟨⟨ns, _⟩, after, rfl, rfl, rfl⟩ := List.map_eq_cons_iff.1 rest
  have sorted : (trails up t n).Pairwise fun p q => List.Lex (· < ·) p.1 q.1 := trails_sorted
  rw [split, List.pairwise_append, List.pairwise_cons] at sorted
  obtain ⟨route, length⟩ := mem_trails.1
    (split ▸ List.mem_append_right before List.mem_cons_self)
  refine ⟨ns, route, length, ?_⟩
  intro v ms new route' length'
  have mem : (ms, v) ∈ trails up t n := mem_trails.2 ⟨route', length'⟩
  rw [split, List.mem_append, List.mem_cons] at mem
  obtain mem | same | mem := mem
  · exact absurd (List.mem_map_of_mem mem) new
  · exact .inl (Prod.mk.inj same)
  · exact .inr (sorted.2.1.1 _ mem)

/-- The least of the shortest routes is the first. -/
lemma firstRoute_of_least (distance : h.Distance t n u) (route : Route h.supertypes t ns u)
    (length : ns.length = n)
    (least : ∀ {ms}, Route h.supertypes t ms u → ms.length = n →
      ms = ns ∨ List.Lex (· < ·) ns ms) :
    FirstRoute h.supertypes t ns u where
  route := route
  least {ms} route' := by
    obtain equal | further := Nat.eq_or_lt_of_le
      (distance.least (climbs_iff_route.2 ⟨ms, route', rfl⟩))
    · obtain same | less := least route' equal.symm
      · exact .inl same
      · exact .inr (.of_lex (length.trans equal) less)
    · exact .inr (.of_length_lt (length.trans_lt further))

/-- What is at a distance has a first route of that length. -/
lemma Distance.firstRoute (distance : h.Distance t n u) :
    ∃ ns, FirstRoute h.supertypes t ns u ∧ ns.length = n := by
  obtain ⟨ms, route, length⟩ := climbs_iff_route.1 distance.climbs
  have mem : u ∈ row h.supertypes t n := List.mem_map_of_mem (mem_trails.2 ⟨route, length⟩)
  obtain ⟨pre, post, whole, new⟩ := List.eq_append_cons_of_mem mem
  obtain ⟨ns, route, length, before⟩ := exists_route_of_row whole
  refine ⟨ns, firstRoute_of_least distance route length ?_, length⟩
  intro ms route' length'
  exact (before new route' length').imp_left And.left

/-- What is nearer is reached by an earlier route. -/
lemma earlier_of_lt {k : Nat} (distance : h.Distance t n u) (distance' : h.Distance t k v)
    (less : n < k) : Earlier h.supertypes t u v := by
  obtain ⟨ns, first, rfl⟩ := distance.firstRoute
  obtain ⟨ms, first', rfl⟩ := distance'.firstRoute
  exact ⟨ns, ms, first, first', .of_length_lt less⟩

/-- Of two types that are equally far away, the one that its row gets to first is reached by the
earlier route. -/
lemma earlier_of_row {pre post : List EventType} (whole : row h.supertypes t n = pre ++ u :: post)
    (new : u ∉ pre) (new' : v ∉ pre) (other : v ≠ u) (distance : h.Distance t n u)
    (distance' : h.Distance t n v) : Earlier h.supertypes t u v := by
  obtain ⟨ns, route, length, before⟩ := exists_route_of_row whole
  obtain ⟨ms, first', length'⟩ := distance'.firstRoute
  refine ⟨ns, ms, firstRoute_of_least distance route length ?_, first', ?_⟩
  · intro ms route' length'
    exact (before new route' length').imp_left And.left
  · obtain ⟨_, same⟩ | less := before new' first'.route length'
    · exact absurd same other
    · exact .of_lex (length.trans length'.symm) less

/-! ## The levels of the walk -/

/-- Nothing is fresh where all has been seen. -/
lemma fresh_eq_nil (old : ∀ u ∈ ts, u ∈ seen) : fresh seen ts = [] := by
  rw [List.eq_nil_iff_forall_not_mem]
  intro u mem
  obtain ⟨mem, new⟩ := mem_fresh.1 mem
  exact new (old u mem)

/-- What is fresh stands in the order of the first places. -/
lemma fresh_in_order : (fresh seen ts).Pairwise fun u v =>
    ∃ pre post, ts = pre ++ u :: post ∧ u ∉ pre ∧ v ∉ pre := by
  induction ts generalizing seen with
  | nil => exact .nil
  | cons t ts ih =>
    -- One more type in front changes nothing for types other than it.
    have further {seen'} (mem_t : t ∈ seen') : (fresh seen' ts).Pairwise fun u v =>
        ∃ pre post, t :: ts = pre ++ u :: post ∧ u ∉ pre ∧ v ∉ pre := by
      apply ih.imp_of_mem
      rintro u v mem mem' ⟨pre, post, rfl, new, new'⟩
      have other {w} (mem : w ∈ fresh seen' (pre ++ u :: post)) : w ≠ t := by
        rintro rfl
        exact (mem_fresh.1 mem).2 mem_t
      exact ⟨t :: pre, post, rfl, List.not_mem_cons_of_ne_of_not_mem (other mem) new,
        List.not_mem_cons_of_ne_of_not_mem (other mem') new'⟩
    by_cases old : t ∈ seen
    · rw [fresh, if_pos old]
      exact further old
    · rw [fresh, if_neg old, List.pairwise_cons]
      exact ⟨fun v _ => ⟨[], ts, rfl, List.not_mem_nil, List.not_mem_nil⟩,
        further List.mem_cons_self⟩

/-- What is fresh above some types can be told from those of them that are fresh, if all above the
others has been seen. -/
lemma fresh_flatMap_fresh {before : List EventType} (old : ∀ u ∈ before, ∀ v ∈ up u, v ∈ seen) :
    fresh seen ((fresh before ts).flatMap up) = fresh seen (ts.flatMap up) := by
  induction ts generalizing before seen with
  | nil => rfl
  | cons t ts ih =>
    rw [fresh, List.flatMap_cons]
    split
    · rename_i mem
      rw [fresh_append, fresh_eq_nil (old t mem), List.nil_append, List.append_nil]
      exact ih old
    · rw [List.flatMap_cons, fresh_append, fresh_append, ih]
      intro u mem v mem'
      rw [List.mem_append, mem_fresh]
      cases mem with
      | head => tauto
      | tail _ mem => exact .inl (old u mem v mem')

/-- A level of the walk, with the types in the order in which their row gets to them. -/
structure Row (h : Hierarchy) (t : EventType) (n : Nat) (seen pending : List EventType) :
    Prop where
  level : h.Level t n seen pending
  first : ∃ before, pending = fresh before (row h.supertypes t n) ∧
    ∀ u ∈ before, ∀ v ∈ h.supertypes u, v ∈ seen

namespace Row

/-- The first row is the type itself. -/
lemma start (proper : t ≠ .anyEvent) : h.Row t 0 [.anyEvent, t] [t] where
  level := .start proper
  first := by
    refine ⟨[.anyEvent], ?_, ?_⟩
    · rw [row, trails, List.map_singleton, fresh, if_neg (by simpa using proper), fresh]
    · intro u mem v declares
      cases List.mem_singleton.1 mem
      exact absurd declares not_declares_anyEvent

/-- The rows follow one another. -/
lemma next (row : h.Row t n seen pending) :
    h.Row t (n + 1) (seen ++ h.nextLevel seen pending) (h.nextLevel seen pending) where
  level := row.level.next
  first := by
    obtain ⟨before, rfl, old⟩ := row.first
    refine ⟨seen, ?_, ?_⟩
    · rw [nextLevel, fresh_flatMap_fresh old, row_succ]
    · intro u mem v declares
      rw [row.level.next.seen]
      obtain rfl | ⟨k, near, climbs⟩ := (row.level.seen u).1 mem
      · exact absurd declares not_declares_anyEvent
      · exact .inr ⟨k + 1, Nat.succ_le_succ near, climbs.up declares⟩

/-- In a row each type comes before those with a later first route. -/
lemma earlier (row : h.Row t n seen pending) :
    pending.Pairwise (Earlier h.supertypes t) := by
  have distance {u} (mem : u ∈ pending) := ((row.level.pending u).1 mem).2
  obtain ⟨before, rfl, _⟩ := row.first
  apply (fresh_in_order.and fresh_nodup).imp_of_mem
  rintro u v mem mem' ⟨⟨pre, post, whole, new, new'⟩, other⟩
  exact earlier_of_row whole new new' other.symm (distance mem) (distance mem')

end Row

/-- The walk visits types in the order of the first routes to them. -/
lemma walk_earlier (row : h.Row t n seen pending) :
    (h.walk seen pending).Pairwise (Earlier h.supertypes t) := by
  refine walk_pairwise (P := h.Row t) Row.next Row.earlier ?_ row
  intro n seen pending row u mem v mem'
  obtain ⟨w, mem_w, reaches⟩ := reaches_of_mem_walk mem'
  have climbs : ∃ k, h.Climbs t k v := by
    have climbs := ((row.level.next.pending w).1 mem_w).2.climbs
    obtain rfl | above := Relation.reflTransGen_iff_eq_or_transGen.1 reaches
    · exact ⟨_, climbs⟩
    · obtain ⟨k, _, climbs⟩ := climbs.above above
      exact ⟨k, climbs⟩
  obtain ⟨_, climbs⟩ := climbs
  obtain ⟨k, _, distance⟩ := climbs.distance
  exact earlier_of_lt ((row.level.pending u).1 mem).2 distance
    (row.level.next.le_of_mem_walk mem' distance)

/-! ## The walk by turns -/

/-- How far a walk has come: the types that have been put on its list, those of them that are still
to be visited, and those that have been visited. -/
structure Walk where
  seen : List EventType
  pending : List EventType
  visited : List EventType

namespace Walk

/-- The universal type counts as seen from the start. -/
def start (t : EventType) : Walk where
  seen := .anyEvent :: fresh [.anyEvent] [t]
  pending := fresh [.anyEvent] [t]
  visited := []

/-- One turn visits the type that has been pending longest. -/
def turn (up : EventType → List EventType) (w : Walk) : Walk :=
  match w.pending with
  | [] => w
  | t :: rest =>
    { seen := w.seen ++ fresh w.seen (up t)
      pending := rest ++ fresh w.seen (up t)
      visited := w.visited ++ [t] }

/-- What a walk that is over has found, with the universal type at the end. -/
def closure (w : Walk) : List EventType := w.visited ++ [.anyEvent]

/-- A walk that is over stays as it is. -/
lemma iterate_turn_of_ended {w : Walk} (ended : w.pending = []) (n : Nat) :
    (turn up)^[n] w = w := by
  apply Function.iterate_fixed
  rw [turn, ended]

/-- A walk that ends ends in one way. -/
lemma ended_unique {w w₁ w₂ : Walk} {k : Nat} (turns : (turn up)^[n] w = w₁)
    (ended : w₁.pending = []) (turns' : (turn up)^[k] w = w₂) (ended' : w₂.pending = []) :
    w₁ = w₂ := by
  obtain ⟨d, rfl⟩ | ⟨d, rfl⟩ := (Nat.le_total n k).imp Nat.exists_eq_add_of_le'
    Nat.exists_eq_add_of_le'
  · rw [← turns', Function.iterate_add_apply, turns, iterate_turn_of_ended ended]
  · rw [← turns, Function.iterate_add_apply, turns', iterate_turn_of_ended ended']

end Walk

/-- Both say the same of all types that are reached from `t`. -/
def Agrees (up : EventType → List EventType) (t : EventType) (up' : EventType → List EventType) :
    Prop :=
  ∀ {u}, Relation.ReflTransGen (Above up) t u → up' u = up u

/-- Declarations that agree have the same routes. -/
lemma Agrees.route (agrees : Agrees up t up') : Route up' t ns u ↔ Route up t ns u := by
  constructor
  · intro route
    induction route with
    | here => exact .here
    | up _ step ih =>
      rw [agrees ih.reaches] at step
      exact ih.up step
  · intro route
    induction route with
    | here => exact .here
    | up route step ih =>
      rw [← agrees route.reaches] at step
      exact ih.up step

/-- They reach the same types. -/
lemma Agrees.transGen (agrees : Agrees up t up') :
    Relation.TransGen (Above up') t u ↔ Relation.TransGen (Above up) t u := by
  constructor
  · intro reaches
    induction reaches with
    | single above =>
      rw [Above, agrees .refl] at above
      exact .single above
    | tail _ above ih =>
      rw [Above, agrees ih.to_reflTransGen] at above
      exact ih.tail above
  · intro reaches
    induction reaches with
    | single above =>
      rw [Above, ← agrees .refl] at above
      exact .single above
    | tail reaches above ih =>
      rw [Above, ← agrees reaches.to_reflTransGen] at above
      exact ih.tail above

/-- They have the same types earlier. -/
lemma Agrees.earlier (agrees : Agrees up t up') (earlier : Earlier up' t u v) :
    Earlier up t u v := by
  obtain ⟨ns, ms, first, first', less⟩ := earlier
  refine ⟨ns, ms, ⟨agrees.route.1 first.route, ?_⟩, ⟨agrees.route.1 first'.route, ?_⟩, less⟩
  · exact fun route => first.least (agrees.route.2 route)
  · exact fun route => first'.least (agrees.route.2 route)

/-- Where only finitely many types are reached, there is a hierarchy that agrees. -/
lemma exists_agrees (top : up .anyEvent = [])
    (finite : {u | Relation.ReflTransGen (Above up) t u}.Finite) :
    ∃ h : Hierarchy, Agrees up t h.supertypes := by
  refine ⟨⟨finite.toFinset.toList.map fun u => (u, up u)⟩, ?_⟩
  intro u reaches
  rw [supertypes]
  split
  · rename_i universal
    rw [universal, top]
  · rw [List.lookup_graph _ (by simpa using reaches)]
    rfl

/-- The turns come to the end of the walk, if all types that are still to be visited have the
supertypes that the hierarchy says. -/
lemma turns_walk (w : Walk)
    (agrees : ∀ u ∈ w.pending, Agrees up u h.supertypes) :
    ∃ n seen, (Walk.turn up)^[n] w = ⟨seen, [], w.visited ++ h.walk w.seen w.pending⟩ := by
  obtain ⟨seen, pending, visited⟩ := w
  dsimp only at agrees ⊢
  fun_induction walk h seen pending generalizing visited with
  | case1 seen => exact ⟨0, seen, by rw [List.append_nil]; rfl⟩
  | case2 seen t pending ih =>
    have same : h.supertypes t = up t := agrees t List.mem_cons_self .refl
    have agrees' : ∀ u ∈ pending ++ fresh seen (h.supertypes t), Agrees up u h.supertypes := by
      intro u mem v reaches
      obtain mem | mem := List.mem_append.1 mem
      · exact agrees u (List.mem_cons_of_mem _ mem) reaches
      · rw [same] at mem
        exact agrees t List.mem_cons_self (.head (mem_fresh.1 mem).1 reaches)
    obtain ⟨n, seen', turns⟩ := ih (visited ++ [t]) agrees'
    refine ⟨n + 1, seen', ?_⟩
    rw [same] at turns ⊢
    rw [List.append_assoc] at turns
    exact turns

/-- The closure is the whole walk and then the universal type. -/
lemma closure_eq (h : Hierarchy) (t : EventType) :
    h.closure t = h.walk (Walk.start t).seen (Walk.start t).pending ++ [.anyEvent] := by
  rw [closure, Walk.start, fresh, fresh]
  by_cases universal : t = .anyEvent
  · rw [if_pos universal, if_pos (List.mem_singleton.2 universal), walk]
    rfl
  · rw [if_neg universal, if_neg (mt List.mem_singleton.1 universal), fresh]

/-- The walk from a type comes to the closure in every hierarchy that agrees with the supertypes. -/
lemma turns_closure (agrees : Agrees up t h.supertypes) :
    ∃ n w, (Walk.turn up)^[n] (.start t) = w ∧ w.pending = [] ∧ w.closure = h.closure t := by
  have pending : ∀ u ∈ (Walk.start t).pending, Agrees up u h.supertypes := by
    intro u mem
    cases List.mem_singleton.1 (mem_fresh.1 mem).1
    exact agrees
  obtain ⟨n, seen, turns⟩ := turns_walk (.start t) pending
  exact ⟨n, _, turns, rfl, (h.closure_eq t).symm⟩

/-- The closure begins with the type itself. -/
lemma head?_closure : (h.closure t).head? = some t := by
  rw [closure]
  split
  · rename_i universal
    rw [universal, List.head?_cons]
  · rw [walk, List.cons_append, List.head?_cons]

/-- What a walk visited that comes to the closure stands in order. -/
lemma visited_earlier {w : Walk} (same : w.closure = h.closure t) :
    w.visited.Pairwise (Earlier h.supertypes t) := by
  by_cases universal : t = .anyEvent
  · rw [Walk.closure, closure, if_pos universal] at same
    rw [List.append_left_eq_self.1 same]
    exact .nil
  · rw [Walk.closure, closure, if_neg universal] at same
    rw [List.append_cancel_right same]
    exact walk_earlier (.start universal)

/-- Whatever supertypes there are, with cycles, repetitions and the universal type anywhere, as long
as finitely many types are reached from a type the walk from it comes to an end. What it has found
then holds no type twice, and it holds just the type, which comes first, all that is reached and the
universal type, which comes last. All others are in the order of the first routes to them. This is
the closure of the type in every hierarchy with these supertypes. -/
theorem closure_breadth_first (top : up .anyEvent = [])
    (finite : {u | Relation.ReflTransGen (Above up) t u}.Finite) :
    ∃ n w, (Walk.turn up)^[n] (.start t) = w ∧ w.pending = [] ∧
      w.closure.Nodup ∧
      (∀ u, u ∈ w.closure ↔ u = t ∨ Relation.TransGen (Above up) t u ∨ u = .anyEvent) ∧
      w.closure.head? = some t ∧
      w.closure.getLast? = some .anyEvent ∧
      (t = .anyEvent → w.closure = [.anyEvent]) ∧
      w.visited.Pairwise (Earlier up t) ∧
      ∀ h : Hierarchy, Agrees up t h.supertypes → h.closure t = w.closure := by
  obtain ⟨h, agrees⟩ := exists_agrees top finite
  obtain ⟨n, w, turns, ended, same⟩ := turns_closure agrees
  refine ⟨n, w, turns, ended, ?_, ?_, ?_, ?_, ?_, ?_, ?_⟩
  · rw [same]
    exact closure_nodup
  · intro u
    rw [same, mem_closure, ← agrees.transGen]
    rfl
  · rw [same]
    exact head?_closure
  · exact List.getLast?_concat
  · intro universal
    rw [same, closure, if_pos universal]
  · exact (visited_earlier same).imp agrees.earlier
  · intro h' agrees'
    obtain ⟨k, w', turns', ended', same'⟩ := turns_closure agrees'
    rw [← same', Walk.ended_unique turns ended turns' ended']

namespace Loops

def order : EventType := ⟨"Order"⟩
def audited : EventType := ⟨"Audited"⟩
def priced : EventType := ⟨"Priced"⟩
def recorded : EventType := ⟨"Recorded"⟩
def taxed : EventType := ⟨"Taxed"⟩

/-- A type above itself, a cycle, a diamond, and a supertype that is declared twice. -/
def table : List (EventType × List EventType) :=
  [(order, [audited, priced, order, audited]), (audited, [recorded, .anyEvent, priced]),
    (priced, [taxed, recorded, order]), (recorded, [audited]), (taxed, []), (.anyEvent, [])]

/-- Above each of the other types there is no end of further types. -/
def supertypes (t : EventType) : List EventType := (table.lookup t).getD [⟨t.name ++ "+"⟩]

/-- Only finitely many types are reached from an order. -/
lemma finite : {u | Relation.ReflTransGen (Above supertypes) order u}.Finite := by
  apply (table.map (·.1)).finite_toSet.subset
  have closed : ∀ u ∈ table.map (·.1), ∀ v ∈ supertypes u, v ∈ table.map (·.1) := by decide
  intro u reaches
  induction reaches with
  | refl => exact List.mem_cons_self
  | tail _ above ih => exact closed _ ih _ above

end Loops

/-- `Recorded` is two steps from `Order` by way of either type in between, and the way by the first
one puts it before `Taxed`. -/
theorem loops_breadth_first :
    let w := (Walk.turn Loops.supertypes)^[5] (.start Loops.order)
    Loops.supertypes .anyEvent = [] ∧
      {u | Relation.ReflTransGen (Above Loops.supertypes) Loops.order u}.Finite ∧
      w.pending = [] ∧
      w.closure = [Loops.order, Loops.audited, Loops.priced, Loops.recorded, Loops.taxed,
        .anyEvent] ∧
      w.closure.Nodup ∧ w.visited.Pairwise (Earlier Loops.supertypes Loops.order) := by
  intro w
  have top : Loops.supertypes .anyEvent = [] := by decide
  obtain ⟨n, w', turns, ended', nodup, _, _, _, _, earlier, _⟩ :=
    closure_breadth_first top Loops.finite
  have ended : w.pending = [] := by decide
  have same : w = w' := Walk.ended_unique rfl ended turns ended'
  rw [← same] at nodup earlier
  exact ⟨top, Loops.finite, ended, by decide, nodup, earlier⟩

end Hierarchy

end EventBus
