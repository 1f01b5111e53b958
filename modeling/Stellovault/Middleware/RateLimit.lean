import Stellovault.Shared.Runtime

set_option autoImplicit false

/-!
# The rate limiter

One fixed window per IP; `Date.now()` is an input of each request, the log of decisions a ghost.
-/

namespace Stellovault.Middleware

/-- `WINDOW_MS`, one minute in milliseconds. -/
def windowMs : Nat := 60000

/-- `MAX_REQUESTS`. -/
def maxRequests : Nat := 100

/-- A value of `requestCounts`. -/
structure Entry where
  count : Nat
  /-- Milliseconds since the epoch. -/
  resetAt : Nat
  deriving DecidableEq, Repr

/-- What the middleware does with a request. -/
inductive Decision where
  /-- `next()`. -/
  | passed
  /-- `res.status(status).json({ success: false, error })`, with `Retry-After` in seconds. -/
  | rejected (status retryAfter : Nat) (error : String)
  deriving DecidableEq, Repr

/-- The middleware on the entry of the request's key, at `now`: the decision, and the entry it
leaves in the map. -/
def countRequest (entry : Option Entry) (now : Nat) : Decision × Entry :=
  match entry with
  | some entry =>
    if now > entry.resetAt then (.passed, ⟨1, now + windowMs⟩)
    else
      -- `entry.count++` changes the entry in the map, whatever the check then decides.
      let counted : Entry := { entry with count := entry.count + 1 }
      if counted.count > maxRequests then
        -- `Math.ceil((entry.resetAt - now) / 1000)`, with `now ≤ entry.resetAt` here.
        (.rejected 429 ((entry.resetAt - now + 999) / 1000) "Too many requests", counted)
      else (.passed, counted)
  | none => (.passed, ⟨1, now + windowMs⟩)

/-- `rateLimitMiddleware`; the key is `req.ip || "unknown"`. -/
def rateLimitMiddleware (requestCounts : String → Option Entry) (ip : Option String) (now : Nat) :
    Decision × (String → Option Entry) :=
  let key := orDefault ip "unknown"
  ((countRequest (requestCounts key) now).1,
    Function.update requestCounts key (some (countRequest (requestCounts key) now).2))

structure Request where
  ip : Option String
  /-- `Date.now()` when the request reaches the middleware. -/
  now : Nat

/-- The key `requestCounts` files a request under. -/
def Request.key (request : Request) : String := orDefault request.ip "unknown"

structure Limiter where
  requestCounts : String → Option Entry
  /-- Every request and what the middleware did with it, in order. -/
  log : List (Request × Decision)

def Limiter.step (limiter : Limiter) (request : Request) : Limiter :=
  ⟨(rateLimitMiddleware limiter.requestCounts request.ip request.now).2,
    limiter.log ++ [(request, (rateLimitMiddleware limiter.requestCounts request.ip request.now).1)]⟩

def Limiter.run (limiter : Limiter) (requests : List Request) : Limiter :=
  requests.foldl Limiter.step limiter

/-- The process at start: `requestCounts` is empty. -/
def Limiter.fresh : Limiter := ⟨fun _ => none, []⟩

/-- The times of the requests filed under `key` that the middleware passed. -/
def passedTimes (key : String) (log : List (Request × Decision)) : List Nat :=
  log.filterMap fun entry => if entry.1.key = key ∧ entry.2 = .passed then some entry.1.now else none

example : (Limiter.fresh.run [⟨some "ip", 0⟩, ⟨none, 5⟩, ⟨some "", 9⟩]).requestCounts "unknown" =
    some ⟨2, 60005⟩ := by decide

@[simp] theorem passedTimes_nil (key : String) : passedTimes key [] = [] := rfl

theorem passedTimes_append (key : String) (log : List (Request × Decision)) (request : Request)
    (decision : Decision) :
    passedTimes key (log ++ [(request, decision)]) =
      passedTimes key log ++ if request.key = key ∧ decision = .passed then [request.now] else [] := by
  by_cases counted : request.key = key ∧ decision = .passed <;> simp [passedTimes, counted]

theorem step_requestCounts (limiter : Limiter) (request : Request) (key : String) :
    (limiter.step request).requestCounts key =
      if key = request.key then some (countRequest (limiter.requestCounts key) request.now).2
      else limiter.requestCounts key := by
  simp only [Limiter.step, rateLimitMiddleware, Request.key, Function.update_apply]
  split <;> simp_all

/-! ## Counting -/

section Counting

variable {α : Type} {l : List α} {p q r : α → Bool}

theorem countP_le_add (split : ∀ a ∈ l, p a → q a ∨ r a) :
    l.countP p ≤ l.countP q + l.countP r := by
  induction l with
  | nil => simp
  | cons a rest ih =>
    have here := split a (List.mem_cons_self _ _)
    have rest_le := ih fun b member => split b (List.mem_cons_of_mem _ member)
    simp only [List.countP_cons]
    cases hp : p a
    · simp only [Bool.false_eq_true, if_false]; omega
    · rcases here hp with hq | hr
      · simp only [hq, if_true]; omega
      · simp only [hr, if_true]; split <;> omega

theorem countP_lt_of_mem (weaker : ∀ a ∈ l, q a → p a) {x : α} (member : x ∈ l) (holds : p x)
    (fails : q x = false) : l.countP q < l.countP p := by
  induction l with
  | nil => cases member
  | cons a rest ih =>
    simp only [List.countP_cons]
    have rest_le := List.countP_mono_left fun b member => weaker b (List.mem_cons_of_mem _ member)
    have here := weaker a (List.mem_cons_self _ _)
    rcases List.mem_cons.mp member with rfl | later
    · simp only [holds, fails, if_true, Bool.false_eq_true, if_false]; omega
    · have := ih (fun b member => weaker b (List.mem_cons_of_mem _ member)) later
      cases hq : q a
      · simp only [Bool.false_eq_true, if_false]; split <;> omega
      · simp only [here hq, if_true]; omega

end Counting

/-! ## The window of one key -/

/-- The passed requests of one key against its entry, with every request so far by `last`: the
window opened at `start` by a passed request; the passed requests at or after `start` are the
first `MAX_REQUESTS` the entry counted; fewer than `MAX_REQUESTS` passed in the minute before
`start`; and fewer than twice `MAX_REQUESTS` in any minute. -/
structure Window (last start : Nat) (entry : Entry) (passed : List Nat) : Prop where
  resetAt : entry.resetAt = start + windowMs
  started : start ≤ last
  opener : start ∈ passed
  before : ∀ a ∈ passed, a ≤ entry.resetAt
  counted : passed.countP (start ≤ ·) = min entry.count maxRequests
  previous : passed.countP (fun a => start - windowMs ≤ a ∧ a < start) < maxRequests
  anyMinute : ∀ t, passed.countP (fun a => t ≤ a ∧ a ≤ t + windowMs) < 2 * maxRequests

/-- The entry of a key and the times of its passed requests, every request so far by `last`. -/
def Tracked (last : Nat) : Option Entry → List Nat → Prop
  | none, passed => passed = []
  | some entry, passed => ∃ start, Window last start entry passed

theorem Tracked.mono {last now : Nat} (later : last ≤ now) :
    ∀ {entry : Option Entry} {passed : List Nat}, Tracked last entry passed → Tracked now entry passed
  | none, _, tracked => tracked
  | some _, _, ⟨start, window⟩ => ⟨start, { window with started := window.started.trans later }⟩

theorem opened_window (now : Nat) : Window now now ⟨1, now + windowMs⟩ [now] where
  resetAt := rfl
  started := le_rfl
  opener := List.mem_singleton_self _
  before := by simp
  counted := by simp [maxRequests]
  previous := by simp [maxRequests]
  anyMinute t := (List.countP_le_length _).trans_lt (by simp [maxRequests])

theorem reopened_window {last now start : Nat} {entry : Entry} {passed : List Nat}
    (window : Window last start entry passed) (after : now > entry.resetAt) :
    Window now now ⟨1, now + windowMs⟩ (passed ++ [now]) := by
  have older : ∀ a ∈ passed, a < now := fun a member => (window.before a member).trans_lt after
  have recent : passed.countP (fun a => now - windowMs ≤ a) < maxRequests :=
    calc passed.countP (fun a => now - windowMs ≤ a)
        ≤ passed.countP (start < ·) := List.countP_mono_left fun a member within => by
          have := window.resetAt; simp only [decide_eq_true_eq] at within ⊢; omega
      _ < passed.countP (start ≤ ·) :=
          countP_lt_of_mem (fun a _ earlier => by simp only [decide_eq_true_eq] at earlier ⊢; omega)
            window.opener (by simp) (by simp)
      _ ≤ maxRequests := window.counted ▸ min_le_right _ _
  refine ⟨rfl, le_rfl, List.mem_append_right _ (List.mem_singleton_self _), ?_, ?_, ?_, ?_⟩
  · intro a member
    rcases List.mem_append.mp member with old | new
    · have := older a old; simp only; omega
    · rw [List.mem_singleton.mp new]; simp only; omega
  · have none_after : passed.countP (now ≤ ·) = 0 :=
      List.countP_eq_zero.mpr fun a member => by have := older a member; simp only [decide_eq_true_eq]; omega
    simp [none_after, maxRequests]
  · rw [List.countP_append]
    have := List.countP_mono_left (l := passed) (p := fun a => decide (now - windowMs ≤ a ∧ a < now))
      (q := fun a => decide (now - windowMs ≤ a)) fun a _ within => by simp_all
    simp only [List.countP_singleton, lt_irrefl, and_false, decide_False, Bool.false_eq_true,
      if_false]
    omega
  · intro t
    rw [List.countP_append, List.countP_singleton]
    by_cases inside : t ≤ now ∧ now ≤ t + windowMs
    · have := List.countP_mono_left (l := passed) (p := fun a => decide (t ≤ a ∧ a ≤ t + windowMs))
        (q := fun a => decide (now - windowMs ≤ a)) fun a _ within => by
          simp only [decide_eq_true_eq] at within ⊢; omega
      rw [if_pos (decide_eq_true inside)]
      simp only [maxRequests] at this recent ⊢
      omega
    · rw [if_neg fun holds => inside (of_decide_eq_true holds), Nat.add_zero]
      exact window.anyMinute t

theorem counted_window {last now start : Nat} {entry : Entry} {passed : List Nat}
    (window : Window last start entry passed) (later : last ≤ now) (within : now ≤ entry.resetAt) :
    Window now start ⟨entry.count + 1, entry.resetAt⟩
      (if entry.count + 1 > maxRequests then passed else passed ++ [now]) := by
  have since : start ≤ now := window.started.trans later
  split_ifs with full
  · exact ⟨window.resetAt, since, window.opener, window.before,
      window.counted.trans (by simp only [maxRequests] at full ⊢; omega), window.previous,
      window.anyMinute⟩
  · refine ⟨window.resetAt, since, List.mem_append_left _ window.opener, ?_, ?_, ?_, ?_⟩
    · intro a member
      rcases List.mem_append.mp member with old | new
      · exact window.before a old
      · rw [List.mem_singleton.mp new]; exact within
    · rw [List.countP_append, window.counted]
      simp only [List.countP_singleton, since, decide_True, if_true, maxRequests] at full ⊢
      omega
    · rw [List.countP_append, List.countP_singleton]
      have : ¬ now < start := not_lt.mpr since
      simp only [this, and_false, decide_False, if_false, Nat.add_zero]
      exact window.previous
    · intro t
      rw [List.countP_append, List.countP_singleton]
      by_cases inside : t ≤ now ∧ now ≤ t + windowMs
      · have split := countP_le_add (l := passed) (p := fun a => decide (t ≤ a ∧ a ≤ t + windowMs))
          (q := fun a => decide (start - windowMs ≤ a ∧ a < start)) (r := (start ≤ ·))
          fun a _ member => by
            simp only [decide_eq_true_eq] at member ⊢; omega
        have previous := window.previous
        have counted := window.counted
        rw [if_pos (decide_eq_true inside)]
        simp only [maxRequests] at full previous counted ⊢
        omega
      · rw [if_neg fun holds => inside (of_decide_eq_true holds), Nat.add_zero]
        exact window.anyMinute t

theorem countRequest_tracked {last now : Nat} (later : last ≤ now) {entry : Option Entry}
    {passed : List Nat} (tracked : Tracked last entry passed) :
    Tracked now (some (countRequest entry now).2)
      (passed ++ if (countRequest entry now).1 = .passed then [now] else []) := by
  cases entry with
  | none =>
    cases (tracked : passed = [])
    exact ⟨now, opened_window now⟩
  | some entry =>
    obtain ⟨start, window⟩ := tracked
    by_cases after : now > entry.resetAt
    · simp only [countRequest, after, if_true, if_pos]
      exact ⟨now, reopened_window window after⟩
    · have counted := counted_window window later (not_lt.mp after)
      by_cases full : entry.count + 1 > maxRequests
      · simp only [countRequest, after, full, if_true, if_false, reduceCtorEq, List.append_nil] at counted ⊢
        exact ⟨start, counted⟩
      · simp only [countRequest, after, full, if_true, if_false] at counted ⊢
        exact ⟨start, counted⟩

/-! ## Whole runs -/

/-- Every key is tracked, with every request so far by `last`. -/
def Limiter.Inv (last : Nat) (limiter : Limiter) : Prop :=
  ∀ key, Tracked last (limiter.requestCounts key) (passedTimes key limiter.log)

theorem Limiter.step_inv {last : Nat} {limiter : Limiter} (inv : limiter.Inv last)
    (request : Request) (later : last ≤ request.now) : (limiter.step request).Inv request.now := by
  intro key
  rw [step_requestCounts]
  simp only [Limiter.step, passedTimes_append]
  split
  next same =>
    subst same
    have := countRequest_tracked later (inv request.key)
    simp only [rateLimitMiddleware, Request.key] at this ⊢
    convert this using 2
    simp
  next other =>
    have : ¬ (request.key = key ∧
        (rateLimitMiddleware limiter.requestCounts request.ip request.now).1 = .passed) :=
      fun both => other both.1.symm
    rw [if_neg this, List.append_nil]
    exact (inv key).mono later

theorem Limiter.run_inv {last : Nat} {limiter : Limiter} (inv : limiter.Inv last) :
    ∀ {requests : List Request}, (∀ request ∈ requests, last ≤ request.now) →
      requests.Pairwise (fun earlier later => earlier.now ≤ later.now) →
      ∃ bound, (limiter.run requests).Inv bound
  | [], _, _ => ⟨last, inv⟩
  | request :: rest, after, clock => by
    rw [List.pairwise_cons] at clock
    exact Limiter.run_inv (limiter.step_inv inv request (after request (List.mem_cons_self _ _)))
      clock.1 clock.2

theorem fresh_inv : Limiter.fresh.Inv 0 := fun _ => rfl

theorem countRequest_rejected {last now : Nat} (later : last ≤ now) {entry : Option Entry}
    {passed : List Nat} (tracked : Tracked last entry passed) {status retryAfter : Nat}
    {error : String} (rejected : (countRequest entry now).1 = .rejected status retryAfter error) :
    status = 429 ∧ error = "Too many requests" ∧ retryAfter ≤ windowMs / 1000 := by
  cases entry with
  | none => simp [countRequest] at rejected
  | some entry =>
    obtain ⟨start, window⟩ := tracked
    have within := window.resetAt
    have := window.started
    simp only [countRequest] at rejected
    split_ifs at rejected
    cases rejected
    refine ⟨rfl, rfl, ?_⟩
    simp only [windowMs] at within ⊢
    omega

/-- Every rejection in the log is a 429 saying "Too many requests", with a `Retry-After` of at
most a minute. -/
def Limiter.Answered (limiter : Limiter) : Prop :=
  ∀ entry ∈ limiter.log, ∀ status retryAfter error, entry.2 = .rejected status retryAfter error →
    status = 429 ∧ error = "Too many requests" ∧ retryAfter ≤ windowMs / 1000

theorem Limiter.step_answered {last : Nat} {limiter : Limiter} (inv : limiter.Inv last)
    (answered : limiter.Answered) (request : Request) (later : last ≤ request.now) :
    (limiter.step request).Answered := by
  intro entry member status retryAfter error rejected
  rcases List.mem_append.mp member with old | new
  · exact answered entry old status retryAfter error rejected
  · rw [List.mem_singleton.mp new] at rejected
    exact countRequest_rejected later (inv request.key) rejected

theorem Limiter.run_answered {last : Nat} {limiter : Limiter} (inv : limiter.Inv last)
    (answered : limiter.Answered) :
    ∀ {requests : List Request}, (∀ request ∈ requests, last ≤ request.now) →
      requests.Pairwise (fun earlier later => earlier.now ≤ later.now) →
      (limiter.run requests).Answered
  | [], _, _ => answered
  | request :: rest, after, clock => by
    rw [List.pairwise_cons] at clock
    have later := after request (List.mem_cons_self _ _)
    exact Limiter.run_answered (limiter.step_inv inv request later)
      (limiter.step_answered inv answered request later) clock.1 clock.2

theorem passed_per_minute_le (requests : List Request)
    (clock : requests.Pairwise (fun earlier later => earlier.now ≤ later.now)) (key : String)
    (t : Nat) :
    (passedTimes key (Limiter.fresh.run requests).log).countP (fun a => t ≤ a ∧ a ≤ t + windowMs) ≤
      2 * maxRequests - 1 := by
  obtain ⟨bound, inv⟩ := Limiter.run_inv fresh_inv (fun _ _ => Nat.zero_le _) clock
  have tracked := inv key
  revert tracked
  cases (Limiter.fresh.run requests).requestCounts key with
  | none => intro empty; simp only [Tracked] at empty; simp [empty]
  | some entry =>
    rintro ⟨start, window⟩
    have := window.anyMinute t
    simp only [maxRequests] at this ⊢
    omega

/-- One request at the start of a window, one at its `resetAt`, and one just after, which opens
the next window. -/
def acrossWindows : List Request := [⟨some "ip", 0⟩, ⟨some "ip", 60000⟩, ⟨some "ip", 60001⟩]

theorem across_windows_within_bound :
    acrossWindows.Pairwise (fun earlier later => earlier.now ≤ later.now) ∧
      (passedTimes "ip" (Limiter.fresh.run acrossWindows).log).countP
          (fun a => 1 ≤ a ∧ a ≤ 1 + windowMs) ≤ 2 * maxRequests - 1 :=
  ⟨by decide, passed_per_minute_le acrossWindows (by decide) "ip" 1⟩

theorem rejections_retry_within_minute (requests : List Request)
    (clock : requests.Pairwise (fun earlier later => earlier.now ≤ later.now)) :
    ∀ entry ∈ (Limiter.fresh.run requests).log, ∀ status retryAfter error,
      entry.2 = .rejected status retryAfter error →
        status = 429 ∧ error = "Too many requests" ∧ retryAfter ≤ 60 :=
  Limiter.run_answered fresh_inv (fun _ member => by cases member) (fun _ _ => Nat.zero_le _) clock

theorem across_windows_answered :
    acrossWindows.Pairwise (fun earlier later => earlier.now ≤ later.now) ∧
      ∀ entry ∈ (Limiter.fresh.run acrossWindows).log, ∀ status retryAfter error,
        entry.2 = .rejected status retryAfter error →
          status = 429 ∧ error = "Too many requests" ∧ retryAfter ≤ 60 :=
  ⟨by decide, rejections_retry_within_minute acrossWindows (by decide)⟩

theorem retry_after_exact_wait (requestCounts : String → Option Entry) (ip : Option String)
    (now : Nat) {entry : Entry} (filed : requestCounts (orDefault ip "unknown") = some entry)
    {status retryAfter : Nat} {error : String}
    (rejected : (rateLimitMiddleware requestCounts ip now).1 = .rejected status retryAfter error) :
    (rateLimitMiddleware (rateLimitMiddleware requestCounts ip now).2 ip
        (now + 1000 * retryAfter)).1 = .passed ↔ (entry.resetAt - now) % 1000 ≠ 0 := by
  simp only [rateLimitMiddleware, filed, Function.update_same] at rejected ⊢
  simp only [countRequest] at rejected
  split_ifs at rejected with reset full
  cases rejected
  simp only [countRequest, if_neg reset, if_pos full]
  by_cases later : now + 1000 * ((entry.resetAt - now + 999) / 1000) > entry.resetAt
  · -- The wait ends after `resetAt`: a new window.
    rw [if_pos later]
    simp only [true_iff]
    omega
  · -- The wait ends at `resetAt`: the request is counted in the full window.
    have again : entry.count + 1 + 1 > maxRequests := by omega
    rw [if_neg later, if_pos again]
    simp only [reduceCtorEq, false_iff, not_not]
    omega

/-- The key "ip" has used its hundred requests of the window that ends at 61000. -/
def fullWindow (key : String) : Option Entry := if key = "ip" then some ⟨100, 61000⟩ else none

theorem full_window_retry_refused :
    fullWindow (orDefault (some "ip") "unknown") = some ⟨100, 61000⟩ ∧
      (rateLimitMiddleware fullWindow (some "ip") 1000).1 = .rejected 429 60 "Too many requests" ∧
      ((rateLimitMiddleware (rateLimitMiddleware fullWindow (some "ip") 1000).2 (some "ip")
          (1000 + 1000 * 60)).1 = .passed ↔ ((61000 : Nat) - 1000) % 1000 ≠ 0) :=
  ⟨by decide, by decide, @retry_after_exact_wait fullWindow (some "ip") 1000 ⟨100, 61000⟩ (by decide)
    429 60 "Too many requests" (by decide)⟩

theorem run_agrees_on_key (key : String) (requests : List Request) {all alone : Limiter}
    (entry : all.requestCounts key = alone.requestCounts key)
    (log : all.log.filter (·.1.key = key) = alone.log) :
    (all.run requests).requestCounts key = (alone.run (requests.filter (·.key = key))).requestCounts key ∧
      (all.run requests).log.filter (·.1.key = key) = (alone.run (requests.filter (·.key = key))).log := by
  induction requests generalizing all alone with
  | nil => exact ⟨entry, log⟩
  | cons request rest ih =>
    by_cases same : request.key = key
    · have filed : orDefault request.ip "unknown" = key := same
      rw [List.filter_cons_of_pos (by simpa using same)]
      apply ih
      · simp only [step_requestCounts, same, if_true, entry]
      · simp only [Limiter.step, List.filter_append, log, List.filter_singleton, same, decide_True,
          cond_true, rateLimitMiddleware, filed, entry]
    · rw [List.filter_cons_of_neg (by simpa using same)]
      apply ih
      · simp only [step_requestCounts, Ne.symm same, if_false, entry]
      · simp only [Limiter.step, List.filter_append, log, List.filter_singleton, same, decide_False,
          cond_false, List.append_nil]

theorem limiter_isolates_keys (requests : List Request) (key : String) :
    (Limiter.fresh.run requests).requestCounts key =
        (Limiter.fresh.run (requests.filter (·.key = key))).requestCounts key ∧
      (Limiter.fresh.run requests).log.filter (·.1.key = key) =
        (Limiter.fresh.run (requests.filter (·.key = key))).log :=
  run_agrees_on_key key requests rfl rfl

end Stellovault.Middleware
