import Mathlib.Data.List.Dedup
import Mathlib.Data.List.DropRight
import SqlTemplate.Proofs.Render.Caching
import SqlTemplate.Render.Basic

/-!
# What the cache keeps

The queue of the cache is the end of a list that does not depend on the capacity: the requested
sources that denote an expression, each once, in the order of the last request. A request moves its
source to the end of this list, and the queue follows.
-/

namespace SqlTemplate

/-- Those of some sources that denote an expression, each once, in the order of the last request. -/
def lastRequested (sources : List Text) : List Text :=
  (sources.filter fun source => (Expr.parse source).isOk).dedup

section Latest

variable {source : Text} {latest : List Text} {n : ℕ}

/-- Of a source that comes again the later place counts. -/
theorem dedup_concat (sources : List Text) (source : Text) :
    (sources ++ [source]).dedup = sources.dedup.filter (· ≠ source) ++ [source] := by
  induction sources with
  | nil => rfl
  | cons first sources ih =>
    by_cases hlater : first ∈ sources
    · rw [List.cons_append, List.dedup_cons_of_mem (List.mem_append_left _ hlater), ih,
        List.dedup_cons_of_mem hlater]
    · rw [List.cons_append, List.dedup_cons_of_notMem hlater]
      by_cases hfirst : first = source
      · subst hfirst
        rw [List.dedup_cons_of_mem (by simp), ih, List.filter_cons_of_neg (by simp)]
      · rw [List.dedup_cons_of_notMem (by simp [hlater, hfirst]), ih,
          List.filter_cons_of_pos (by simpa using hfirst), List.cons_append]

/-- A request for a source that denotes an expression moves it to the end. -/
theorem lastRequested_concat_of_ok {e : Expr} (hparse : Expr.parse source = .ok e)
    (sources : List Text) :
    lastRequested (sources ++ [source]) =
      (lastRequested sources).filter (· ≠ source) ++ [source] := by
  have hok : (Expr.parse source).isOk = true := by
    rw [hparse]
    rfl
  rw [lastRequested, List.filter_append, List.filter_singleton, hok]
  exact dedup_concat _ _

/-- A request for a source that denotes nothing does not count. -/
theorem lastRequested_concat_of_error {error : Error} (hparse : Expr.parse source = .error error)
    (sources : List Text) : lastRequested (sources ++ [source]) = lastRequested sources := by
  have hnot : (Expr.parse source).isOk = false := by
    rw [hparse]
    rfl
  rw [lastRequested, List.filter_append, List.filter_singleton, hnot]
  simp [lastRequested]

/-- The last elements are as many as asked for, or all there are. -/
theorem length_rtake (latest : List Text) (n : ℕ) :
    (latest.rtake n).length = min n latest.length := by
  rw [List.rtake, List.length_drop]
  omega

/-- Where no more are there than asked for, the last elements are all of them. -/
theorem rtake_of_length_le (h : latest.length ≤ n) : latest.rtake n = latest := by
  rw [List.rtake, Nat.sub_eq_zero_of_le h, List.drop_zero]

/-- The last elements of two lists are those of the second one if it has as many, or is all there
is. -/
theorem rtake_append (old : List Text) (h : old = [] ∨ n ≤ latest.length) :
    (old ++ latest).rtake n = latest.rtake n := by
  rcases h with rfl | hlong
  · rfl
  · have hplace : (old ++ latest).length - n = old.length + (latest.length - n) := by
      rw [List.length_append]
      omega
    rw [List.rtake, hplace, List.drop_length_add_append]
    rfl

/-- Something stands before the last elements only if they are as many as asked for. -/
theorem exists_append_rtake (latest : List Text) (n : ℕ) :
    ∃ old, latest = old ++ latest.rtake n ∧ (old = [] ∨ n ≤ (latest.rtake n).length) := by
  refine ⟨latest.take (latest.length - n), (List.take_append_drop _ _).symm, ?_⟩
  rcases Nat.le_total latest.length n with hshort | hlong
  · left
    rw [Nat.sub_eq_zero_of_le hshort, List.take_zero]
  · right
    rw [length_rtake]
    omega

/-- The last elements are among the last ones that are more. -/
theorem rtake_rtake_succ (latest : List Text) (n : ℕ) :
    (latest.rtake (n + 1)).rtake n = latest.rtake n := by
  obtain ⟨old, hlatest, hold⟩ := exists_append_rtake latest (n + 1)
  generalize latest.rtake (n + 1) = recent at hlatest hold
  rw [hlatest]
  exact (rtake_append _ (hold.imp_right (by omega))).symm

/-- One that is not among the last `n + 1` can go without changing the last `n`. -/
theorem rtake_filter_ne_of_notMem (h : source ∉ latest.rtake (n + 1)) :
    (latest.filter (· ≠ source)).rtake n = latest.rtake n := by
  obtain ⟨old, hlatest, hold⟩ := exists_append_rtake latest (n + 1)
  generalize latest.rtake (n + 1) = recent at h hlatest hold
  have hrecent : recent.filter (· ≠ source) = recent :=
    List.filter_eq_self.mpr fun other hother => by
      simpa using ne_of_mem_of_not_mem hother h
  have holder : old.filter (· ≠ source) = [] ∨ n ≤ recent.length := by
    rcases hold with rfl | hlong
    · exact .inl rfl
    · exact .inr (by omega)
  rw [hlatest, List.filter_append, hrecent, rtake_append _ holder]
  exact (rtake_append _ (hold.imp_right (by omega))).symm

/-- Without one of the last `n + 1`, the last `n` are what is left of these. -/
theorem rtake_filter_ne_of_mem (hnodup : latest.Nodup) (h : source ∈ latest.rtake (n + 1)) :
    (latest.filter (· ≠ source)).rtake n = (latest.rtake (n + 1)).erase source := by
  obtain ⟨old, hlatest, hold⟩ := exists_append_rtake latest (n + 1)
  have hle : (latest.rtake (n + 1)).length ≤ n + 1 := by
    rw [length_rtake]
    omega
  generalize latest.rtake (n + 1) = recent at h hlatest hold hle
  rw [hlatest, List.nodup_append'] at hnodup
  obtain ⟨-, hrecent, hdisjoint⟩ := hnodup
  have holder : old.filter (· ≠ source) = old :=
    List.filter_eq_self.mpr fun other hother => by
      simpa using fun heq : other = source => hdisjoint hother (heq ▸ h)
  have herase : recent.filter (· ≠ source) = recent.erase source := by
    rw [hrecent.erase_eq_filter]
    exact List.filter_congr fun other _ => by simp [bne, beq_eq_decide]
  have hlength : (recent.erase source).length = recent.length - 1 := List.length_erase_of_mem h
  have hroom : old = [] ∨ n ≤ (recent.erase source).length := hold.imp_right (by omega)
  rw [hlatest, List.filter_append, holder, herase, rtake_append _ hroom]
  exact rtake_of_length_le (by omega)

end Latest

namespace Expr.Cache

variable {cache : Cache} {capacity : ℕ} {source : Text} {latest : List Text}

/-- An expression is found for a source that is kept, and for no other. -/
theorem get?_eq_none_iff : cache.get? source = none ↔ source ∉ cache.kept.map Prod.fst := by
  rw [get?, List.lookup_eq_none_iff]
  constructor
  · intro hnone hmem
    obtain ⟨entry, hentry, hsource⟩ := List.mem_map.mp hmem
    have hne := hnone entry hentry
    rw [hsource] at hne
    simp at hne
  · intro hnot entry hentry
    have hne : source ≠ entry.1 := fun heq => hnot (List.mem_map.mpr ⟨entry, hentry, heq.symm⟩)
    simpa using hne

/-- What goes is the front of the queue, as long as there is not room for all, and every source goes
with its expression. -/
theorem evict_eq (capacity : ℕ) {kept : List (Text × Expr)} {queue : List Text}
    (hkeys : (kept.map Prod.fst).Perm queue) (hnodup : queue.Nodup) :
    (evict capacity kept queue).2 = queue.rtake capacity ∧
      ((evict capacity kept queue).1.map Prod.fst).Perm (queue.rtake capacity) := by
  have hlength : kept.length = queue.length := by
    simpa using hkeys.length_eq
  induction queue generalizing kept with
  | nil =>
    rw [evict, List.rtake_nil]
    exact ⟨rfl, hkeys⟩
  | cons oldest queue ih =>
    obtain ⟨holdest, hrest⟩ := List.nodup_cons.mp hnodup
    rw [evict]
    split
    · next hfull =>
      have hleft : queue.filter (· ≠ oldest) = queue :=
        List.filter_eq_self.mpr fun other hother => by
          simpa using ne_of_mem_of_not_mem hother holdest
      have hpassed : ((kept.filter (·.1 ≠ oldest)).map Prod.fst).Perm queue := by
        have hperm := hkeys.filter (· ≠ oldest)
        rw [List.filter_cons_of_neg (by simp), hleft, List.filter_map] at hperm
        exact hperm
      have hfront : (oldest :: queue).rtake capacity = queue.rtake capacity := by
        rw [List.length_cons] at hlength
        exact rtake_append [oldest] (.inr (by omega))
      rw [hfront]
      exact ih hpassed hrest (by simpa using hpassed.length_eq)
    · next hroom =>
      rw [rtake_of_length_le (by omega)]
      exact ⟨rfl, hkeys⟩

/-- What is kept denotes what its source denotes, the queue has the sources that are kept, and it is
the end of the list of the sources requested last. -/
structure Tracks (cache : Cache) (capacity : ℕ) (latest : List Text) : Prop where
  capacity_eq : cache.capacity = capacity
  faithful : cache.Faithful
  keys : (cache.kept.map Prod.fst).Perm cache.queue
  queue_eq : cache.queue = latest.rtake capacity

/-- At first there is nothing to keep. -/
theorem tracks_empty (capacity : ℕ) : (empty capacity).Tracks capacity [] where
  capacity_eq := rfl
  faithful := faithful_empty capacity
  keys := .nil
  queue_eq := (List.rtake_nil capacity).symm

/-- An expression is found unless its source is not among the last ones requested. -/
theorem Tracks.get?_eq_none_iff (h : cache.Tracks capacity latest) :
    cache.get? source = none ↔ source ∉ latest.rtake capacity := by
  rw [Cache.get?_eq_none_iff, h.keys.mem_iff, h.queue_eq]

/-- What is found has its source among the last ones requested. -/
theorem Tracks.mem_of_get?_eq_some (h : cache.Tracks capacity latest) {e : Expr}
    (hget : cache.get? source = some e) : source ∈ latest.rtake capacity := by
  by_contra hmem
  rw [h.get?_eq_none_iff.mpr hmem] at hget
  cases hget

/-- Another request for a source that is kept. -/
theorem Tracks.touch (h : cache.Tracks capacity latest) (hnodup : latest.Nodup)
    (hmem : source ∈ latest.rtake capacity) :
    (cache.touch source).Tracks capacity (latest.filter (· ≠ source) ++ [source]) := by
  have hqueue : source ∈ cache.queue := h.queue_eq ▸ hmem
  have htouch : cache.touch source =
      { cache with queue := cache.queue.erase source ++ [source] } := if_pos hqueue
  have hmoved : cache.queue.Perm (cache.queue.erase source ++ [source]) :=
    (List.perm_cons_erase hqueue).trans (List.perm_append_singleton _ _).symm
  have hlatest : cache.queue.erase source ++ [source] =
      (latest.filter (· ≠ source) ++ [source]).rtake capacity := by
    rw [h.queue_eq]
    cases capacity with
    | zero =>
      rw [List.rtake_zero] at hmem
      cases hmem
    | succ n => rw [List.rtake_concat_succ, rtake_filter_ne_of_mem hnodup hmem]
  have hfaithful := h.faithful.touch source
  rw [htouch] at hfaithful ⊢
  exact ⟨h.capacity_eq, hfaithful, h.keys.trans hmoved, hlatest⟩

/-- The first request for a source, or the first one since it has gone. -/
theorem Tracks.insertIfAbsent (h : cache.Tracks capacity latest) (hnodup : latest.Nodup) {e : Expr}
    (hmem : source ∉ latest.rtake capacity) (hparse : Expr.parse source = .ok e) :
    (cache.insertIfAbsent source e).2.Tracks capacity (latest.filter (· ≠ source) ++ [source]) := by
  have hfaithful := (h.faithful.insertIfAbsent hparse).2
  have hget : cache.get? source = none := h.get?_eq_none_iff.mpr hmem
  cases capacity with
  | zero =>
    -- nothing is kept, and nothing is asked of the queue
    have hsame : cache.insertIfAbsent source e = (e, cache) := if_pos h.capacity_eq
    rw [hsame]
    refine ⟨h.capacity_eq, h.faithful, h.keys, ?_⟩
    rw [h.queue_eq, List.rtake_zero, List.rtake_zero]
  | succ n =>
    have hdistinct : (cache.queue ++ [source]).Nodup := by
      rw [h.queue_eq]
      exact List.concat_eq_append ▸ (hnodup.sublist (List.drop_sublist _ _)).concat hmem
    have hkeys : (((source, e) :: cache.kept).map Prod.fst).Perm (cache.queue ++ [source]) :=
      (h.keys.cons source).trans (List.perm_append_singleton _ _).symm
    obtain ⟨hqueue, hleft⟩ := evict_eq (n + 1) hkeys hdistinct
    have hinsert : (cache.insertIfAbsent source e).2 =
        { cache with
          kept := (evict (n + 1) ((source, e) :: cache.kept) (cache.queue ++ [source])).1
          queue := (evict (n + 1) ((source, e) :: cache.kept) (cache.queue ++ [source])).2 } := by
      rw [Cache.insertIfAbsent, if_neg (by rw [h.capacity_eq]; omega), hget, h.capacity_eq]
    have hlatest : (cache.queue ++ [source]).rtake (n + 1) =
        (latest.filter (· ≠ source) ++ [source]).rtake (n + 1) := by
      rw [List.rtake_concat_succ, List.rtake_concat_succ, rtake_filter_ne_of_notMem hmem,
        h.queue_eq, rtake_rtake_succ]
    rw [hinsert] at hfaithful ⊢
    exact ⟨h.capacity_eq, hfaithful, hqueue ▸ hleft, hqueue.trans hlatest⟩

end Expr.Cache

/-- The sources that have been parsed, in order. -/
def parsings (events : List Event) : List Text :=
  events.filterMap fun
    | .parsing source => some source
    | _ => none

/-- What is asked of an expression. -/
inductive Question
  /-- Its value. -/
  | value
  /-- Whether it is true. -/
  | test
  /-- The elements that a loop takes from it. -/
  | elements (nullable : Bool)
  /-- Whether it is one. -/
  | validity

/-- A question about the expression that a source denotes, under some bindings. -/
structure Request where
  question : Question
  source : Text
  bindings : Bindings

/-- The memory after a request. -/
def Request.perform (request : Request) (memory : Memory) : Memory :=
  let s : RenderState := { bindings := request.bindings, memory }
  match request.question with
  | .value => (Render.evaluate request.source s).state.memory
  | .test => (Render.evaluateTest request.source s).state.memory
  | .elements nullable => (Render.evaluateLoop request.source nullable s).state.memory
  | .validity => (Render.validate request.source s).state.memory

namespace Memory

/-- A memory with an empty cache and no events. -/
def ofCapacity (capacity : ℕ) : Memory := { cache := .empty capacity }

/-- The memory after some requests, one after the other. -/
def serve (memory : Memory) (requests : List Request) : Memory :=
  requests.foldl (fun memory request => request.perform memory) memory

end Memory

section Requests

variable {capacity : ℕ} {sources : List Text} {cache : Expr.Cache}

/-- Every source that is parsed is an event. -/
theorem parsings_append (events : List Event) (sources : List Text) :
    parsings (events ++ sources.map .parsing) = parsings events ++ sources := by
  have hparsed : parsings (sources.map .parsing) = sources := by
    induction sources with
    | nil => rfl
    | cons source rest ih => exact congrArg (source :: ·) ih
  exact List.filterMap_append.trans (congrArg (parsings events ++ ·) hparsed)

/-- A request leaves in the memory what parsing its source leaves there, after the event of an
evaluation at most. -/
theorem Request.perform_eq (request : Request) (memory : Memory) :
    let reply := Evaluator.parsed request.source memory.cache
    ∃ events, parsings events = parsings memory.events ∧
      request.perform memory = ⟨reply.cache, events ++ reply.parsed.map .parsing⟩ := by
  obtain ⟨question, source, bindings⟩ := request
  have hevaluated : parsings (memory.events ++ [.evaluated source]) = parsings memory.events := by
    simp [parsings]
  cases question with
  | value => exact ⟨_, hevaluated, rfl⟩
  | test => exact ⟨_, hevaluated, rfl⟩
  | elements nullable => exact ⟨_, hevaluated, rfl⟩
  | validity => exact ⟨memory.events, rfl, rfl⟩

/-- Parsing a source moves it to the end of the sources requested last. It is not parsed anew if it
is among the last ones that there is room for. -/
theorem tracks_parsed (source : Text) (h : cache.Tracks capacity (lastRequested sources)) :
    (Evaluator.parsed source cache).cache.Tracks capacity (lastRequested (sources ++ [source])) ∧
      (Evaluator.parsed source cache).parsed =
        if source ∈ (lastRequested sources).rtake capacity then [] else [source] := by
  have hnodup : (lastRequested sources).Nodup := List.nodup_dedup _
  cases hget : cache.get? source with
  | some e =>
    have hmem := h.mem_of_get?_eq_some hget
    rw [Evaluator.parsed_of_some hget, if_pos hmem,
      lastRequested_concat_of_ok (h.faithful.parse_eq hget)]
    exact ⟨h.touch hnodup hmem, rfl⟩
  | none =>
    have hmem := h.get?_eq_none_iff.mp hget
    rw [if_neg hmem]
    cases hparse : Expr.parse source with
    | error error =>
      rw [Evaluator.parsed_of_error hget hparse, lastRequested_concat_of_error hparse]
      exact ⟨h, rfl⟩
    | ok e =>
      rw [Evaluator.parsed_of_ok hget hparse, lastRequested_concat_of_ok hparse]
      exact ⟨h.insertIfAbsent hnodup hmem hparse, rfl⟩

/-- One request, with what it adds to the events. -/
theorem Request.tracks_perform (request : Request) {memory : Memory}
    (h : memory.cache.Tracks capacity (lastRequested sources)) :
    (request.perform memory).cache.Tracks capacity (lastRequested (sources ++ [request.source])) ∧
      parsings (request.perform memory).events = parsings memory.events ++
        if request.source ∈ (lastRequested sources).rtake capacity then []
        else [request.source] := by
  obtain ⟨events, hevents, hperform⟩ := request.perform_eq memory
  obtain ⟨htracks, hparsed⟩ := tracks_parsed request.source h
  rw [hperform]
  refine ⟨htracks, ?_⟩
  rw [parsings_append, hevents, hparsed]

/-- After any requests the cache tracks their sources. -/
theorem tracks_serve (capacity : ℕ) (requests : List Request) :
    ((Memory.ofCapacity capacity).serve requests).cache.Tracks capacity
      (lastRequested (requests.map Request.source)) := by
  induction requests using List.reverseRecOn with
  | nil => exact Expr.Cache.tracks_empty capacity
  | append_singleton requests request ih =>
    have hstep := (request.tracks_perform ih).1
    rw [List.map_append, Memory.serve, List.foldl_append]
    exact hstep

end Requests

/-- After any requests, the sources in the queue are the last ones requested of those that denote an
expression, as many as there is room for, each once and the latest at the end. The sources that are
kept are the same, each with the expression that it denotes. A further request parses its source
exactly if it is not among them. -/
theorem Memory.keeps_last_requested (capacity : ℕ) (requests : List Request) :
    let memory := (Memory.ofCapacity capacity).serve requests
    let latest := lastRequested (requests.map Request.source)
    let recent := latest.rtake capacity
    memory.cache.queue = recent ∧ recent.Nodup ∧ recent.length = min capacity latest.length ∧
      (memory.cache.kept.map Prod.fst).Perm recent ∧ memory.cache.size ≤ capacity ∧
      (∀ source, memory.cache.get? source =
        if source ∈ recent then (Expr.parse source).toOption else none) ∧
      ∀ request : Request, parsings (request.perform memory).events =
        parsings memory.events ++ if request.source ∈ recent then [] else [request.source] := by
  intro memory latest recent
  have htracks : memory.cache.Tracks capacity latest := tracks_serve capacity requests
  have hnodup : latest.Nodup := List.nodup_dedup _
  have hlength : recent.length = min capacity latest.length := length_rtake latest capacity
  have hkeys : (memory.cache.kept.map Prod.fst).Perm recent := by
    have hkeys := htracks.keys
    rw [htracks.queue_eq] at hkeys
    exact hkeys
  refine ⟨htracks.queue_eq, hnodup.sublist (List.drop_sublist _ _), hlength, hkeys, ?_, ?_, ?_⟩
  · have hsize : memory.cache.size = recent.length := by
      rw [← hkeys.length_eq, List.length_map]
      rfl
    omega
  · intro source
    cases hget : memory.cache.get? source with
    | none => rw [if_neg (htracks.get?_eq_none_iff.mp hget)]
    | some e =>
      rw [if_pos (htracks.mem_of_get?_eq_some hget), htracks.faithful.parse_eq hget]
      rfl
  · exact fun request => (request.tracks_perform htracks).2

end SqlTemplate
