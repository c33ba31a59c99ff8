import EntitySchema.Proofs.Validation.Places
import Mathlib.Data.Finset.Card

/-!
# One compilation for each key

Requests are made to an empty cache one after the other, each with a way of its own to compile a
validator (`Logged`). The log of their answers says all there is to know about the cache (`Tells`):
a key is found just when an earlier request for it was granted, under the handle it was granted, and
the keys of the cache are those that were compiled with success, in that order and each once.

So a validator is compiled when its key was never granted before and at no other time
(`key_is_compiled_once`).
-/

namespace EntitySchema

namespace Cache

/-- A request: a key, and what compiles a validator for it. -/
structure Request where
  key : ValidatorKey
  compile : Unit → SchemaResult Validator

/-- A cache, and the requests that were made to it with their answers. -/
structure Logged where
  log : List (Request × Answer)
  cache : Cache

/-- Makes a request. -/
def Logged.ask (s : Logged) (r : Request) : Logged :=
  let (answer, cache) := s.cache.getOrCompile r.key r.compile
  ⟨s.log ++ [(r, answer)], cache⟩

/-- An empty cache after some requests. -/
def logged (requests : List Request) : Logged := requests.foldl Logged.ask ⟨[], .empty⟩

theorem logged_append (requests : List Request) (r : Request) :
    logged (requests ++ [r]) = (logged requests).ask r := by
  rw [logged, List.foldl_append]
  rfl

/-- A request for a key was answered with a handle. -/
def Granted (log : List (Request × Answer)) (key : ValidatorKey) (h : Handle) : Prop :=
  ∃ entry ∈ log, entry.1.key = key ∧ entry.2.result = .ok h

/-- The keys that were compiled with success, in the order of the requests. -/
def compiledKeys (log : List (Request × Answer)) : List ValidatorKey :=
  (log.filter fun entry => entry.2.compiled && entry.2.result.isOk).map (·.1.key)

/-- The keys that were asked for with success, in the order of the requests. -/
def grantedKeys (log : List (Request × Answer)) : List ValidatorKey :=
  (log.filter (·.2.result.isOk)).map (·.1.key)

variable {c : Cache} {log : List (Request × Answer)} {key key' : ValidatorKey} {h : Handle}

theorem granted_append {entry : Request × Answer} :
    Granted (log ++ [entry]) key h ↔
      Granted log key h ∨ (entry.1.key = key ∧ entry.2.result = .ok h) := by
  simp [Granted, or_and_right, exists_or]

theorem mem_grantedKeys : key ∈ grantedKeys log ↔ ∃ h, Granted log key h := by
  constructor
  · intro hkey
    obtain ⟨entry, hentry, rfl⟩ := List.mem_map.1 hkey
    obtain ⟨hlog, hok⟩ := List.mem_filter.1 hentry
    cases hr : entry.2.result with
    | ok h => exact ⟨h, entry, hlog, rfl, hr⟩
    | error e =>
      rw [hr] at hok
      cases hok
  · rintro ⟨h, entry, hlog, rfl, hr⟩
    exact List.mem_map_of_mem (List.mem_filter.2 ⟨hlog, by rw [hr]; rfl⟩)

/-- A validator that is added is found under its key, and all others as before. -/
theorem find?_add (c : Cache) (key key' : ValidatorKey) (x : Validator) :
    (c.add key x).find? key' = (c.find? key').or (if key = key' then some c.size else none) := by
  rw [find?, add, List.findIdx?_append, find?, size, List.findIdx?_singleton]
  by_cases hkey : key = key' <;> simp [hkey]

theorem mem_keys_iff : key ∈ c.validators.map Prod.fst ↔ ∃ h, c.find? key = some h := by
  cases hf : c.find? key with
  | none => simpa using not_mem_of_find? hf
  | some h =>
    obtain ⟨x, hx⟩ := has_of_find? hf
    exact ⟨fun _ => ⟨h, rfl⟩, fun _ => List.mem_map_of_mem (List.mem_of_getElem? hx)⟩

/-- The log and the cache say the same. -/
structure Tells (s : Logged) : Prop where
  distinct : s.cache.Distinct
  keys : s.cache.validators.map Prod.fst = compiledKeys s.log
  granted : ∀ key h, Granted s.log key h ↔ s.cache.find? key = some h
  /-- A validator that is found is what an earlier request for its key compiled. -/
  compiled : ∀ key h, s.cache.find? key = some h → ∃ entry ∈ s.log, entry.1.key = key ∧
    entry.2.compiled = true ∧
    ∃ x, entry.1.compile () = .ok x ∧ s.cache.get? h = some (.ofValidator x)

namespace Tells

variable {s : Logged}

theorem start : Tells ⟨[], .empty⟩ where
  distinct := List.nodup_nil
  keys := rfl
  granted key h := by simp [Granted, empty, find?]
  compiled key h hf := by simp [empty, find?] at hf

/-- **One request.** -/
theorem ask (hs : Tells s) (r : Request) : Tells (s.ask r) := by
  unfold Logged.ask
  obtain ⟨h, hf, hr⟩ | ⟨x, hf, hx, hr⟩ | ⟨e, hf, -, hr⟩ :=
    s.cache.getOrCompile_cases r.key r.compile
  · -- The validator is there: it was granted before.
    rw [hr]
    refine ⟨hs.distinct, ?_, fun key h' => ?_, fun key h' hf' => ?_⟩
    · rw [hs.keys]
      simp [compiledKeys]
    · rw [granted_append, hs.granted]
      refine or_iff_left_of_imp ?_
      rintro ⟨rfl, hh⟩
      exact hf.trans (congrArg some (Except.ok.inj hh))
    · obtain ⟨entry, hentry, rest⟩ := hs.compiled key h' hf'
      exact ⟨entry, List.mem_append_left _ hentry, rest⟩
  · -- A validator is compiled and gets the next handle.
    rw [hr]
    refine ⟨(grows_add hf x).2 hs.distinct, ?_, fun key h' => ?_, fun key h' hf' => ?_⟩
    · rw [validators_add, List.map_append, hs.keys]
      simp [compiledKeys, Except.isOk, Except.toBool]
    · rw [granted_append, hs.granted, find?_add]
      by_cases hkey : r.key = key
      · subst hkey
        simp [hf]
      · simp [hkey]
    · rw [find?_add] at hf'
      by_cases hkey : r.key = key
      · subst hkey
        obtain rfl : s.cache.size = h' := by simpa [hf] using hf'
        refine ⟨_, List.mem_append_right _ List.mem_cons_self, rfl, rfl, x, hx, ?_⟩
        simp [get?, add, size]
      · obtain ⟨entry, hentry, hk, hc, y, hy, ht⟩ := hs.compiled key h' (by simpa [hkey] using hf')
        refine ⟨entry, List.mem_append_left _ hentry, hk, hc, y, hy, ?_⟩
        obtain ⟨place, hplace, hvalidator⟩ := Option.map_eq_some_iff.1 ht
        obtain ⟨bound, -⟩ := List.getElem?_eq_some_iff.1 hplace
        rw [get?, add, List.getElem?_append_left bound, hplace, Option.map_some, hvalidator]
  · -- Nothing is compiled, and nothing granted.
    rw [hr]
    refine ⟨hs.distinct, ?_, fun key h' => ?_, fun key h' hf' => ?_⟩
    · rw [hs.keys]
      simp [compiledKeys, Except.isOk, Except.toBool]
    · rw [granted_append, hs.granted]
      simp
    · obtain ⟨entry, hentry, rest⟩ := hs.compiled key h' hf'
      exact ⟨entry, List.mem_append_left _ hentry, rest⟩

/-- **All requests.** -/
theorem run (requests : List Request) : Tells (logged requests) := by
  induction requests using List.reverseRecOn with
  | nil => exact start
  | append_singleton rest r ih => exact logged_append rest r ▸ ih.ask r

/-- There are as many validators as keys that were asked for with success. -/
theorem size_eq (hs : Tells s) : s.cache.size = (grantedKeys s.log).toFinset.card := by
  have same : (grantedKeys s.log).toFinset = (s.cache.validators.map Prod.fst).toFinset := by
    ext key
    rw [List.mem_toFinset, List.mem_toFinset, mem_grantedKeys, mem_keys_iff]
    exact exists_congr fun h => hs.granted key h
  rw [same, List.toFinset_card_of_nodup hs.distinct, List.length_map, validators, List.length_map]
  rfl

end Tells

/-- **One compilation for each key.** After any requests to an empty cache, each key was compiled
with success at most once, and there are as many validators as keys that were granted. The next
request compiles just when no request for its key was granted before, and then its outcome is that
of the compilation. A failure leaves the cache as it was, so that the key will be compiled again. If
the key was granted before, then the validator that was compiled for it is granted again, whatever
this request would have compiled. -/
theorem key_is_compiled_once (requests : List Request) (r : Request) :
    let s := logged requests
    let next := s.cache.getOrCompile r.key r.compile
    (compiledKeys s.log).Nodup ∧ s.cache.size = (grantedKeys s.log).toFinset.card ∧
    (next.1.compiled = true ↔ ∀ h, ¬ Granted s.log r.key h) ∧
    (next.1.compiled = true → match r.compile () with
      | .ok x => next = (⟨.ok s.cache.size, true⟩, s.cache.add r.key x)
      | .error e => next = (⟨.error e, true⟩, s.cache)) ∧
    (∀ e, next.1.result = .error e → next.2 = s.cache ∧
      ∀ other, (next.2.getOrCompile r.key other).1.compiled = true) ∧
    ∀ h, Granted s.log r.key h →
      (∀ other, s.cache.getOrCompile r.key other = (⟨.ok h, false⟩, s.cache)) ∧
      ∃ entry ∈ s.log, entry.1.key = r.key ∧ entry.2.compiled = true ∧
        ∃ x, entry.1.compile () = .ok x ∧ s.cache.get? h = some (.ofValidator x) := by
  intro s next
  have tells : Tells s := .run requests
  have never : (∀ h, ¬ Granted s.log r.key h) ↔ s.cache.find? r.key = none := by
    rw [Option.eq_none_iff_forall_ne_some]
    exact forall_congr' fun h => not_congr (tells.granted r.key h)
  refine ⟨tells.keys ▸ tells.distinct, tells.size_eq, ?_, ?_, ?_, ?_⟩
  · rw [never]
    exact compiled_getOrCompile
  · intro compiled
    exact getOrCompile_of_missing (compiled_getOrCompile.1 compiled)
  · intro e he
    obtain ⟨unchanged, missing⟩ := getOrCompile_of_error he
    exact ⟨unchanged, fun other => compiled_getOrCompile.2 (unchanged.symm ▸ missing)⟩
  · intro h granted
    have found := (tells.granted r.key h).1 granted
    exact ⟨getOrCompile_of_find? found, tells.compiled _ h found⟩

/-- Two requests for one key: the first one fails, the second one compiles. -/
def retried : List Request := [
  ⟨.prop "p", fun _ => fail (.malformedDocument "")⟩,
  ⟨.prop "p", fun _ => Validator.compile (.obj []) none⟩]

theorem retried_key_is_granted_again :
    (logged retried).log.map (·.2.compiled) = [true, true] ∧
    Granted (logged retried).log (.prop "p") 0 ∧
    ∀ other, (logged retried).cache.getOrCompile (.prop "p") other =
      (⟨.ok 0, false⟩, (logged retried).cache) := by
  have second : ((logged retried).log[1]?).map
      (fun entry => (entry.1.key, entry.2.result.toOption)) = some (.prop "p", some 0) := by
    decide +kernel
  obtain ⟨entry, hentry, answer⟩ := Option.map_eq_some_iff.1 second
  obtain ⟨hkey, hresult⟩ := Prod.mk.inj answer
  have granted : Granted (logged retried).log (.prop "p") 0 :=
    ⟨entry, List.mem_of_getElem? hentry, hkey, toOption_eq_some.1 hresult⟩
  obtain ⟨-, -, -, -, -, again⟩ :=
    key_is_compiled_once retried ⟨.prop "p", fun _ => fail (.malformedDocument "")⟩
  exact ⟨by decide +kernel, granted, (again 0 granted).1⟩

end Cache

end EntitySchema
