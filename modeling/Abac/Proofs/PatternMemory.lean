import Abac.Function.PatternCache
import Mathlib.Data.List.DropRight
import Mathlib.Data.List.Nodup

/-!
# Remembered patterns

A pattern matching function reads a pattern only if it does not remember it. What
it remembers is tied to all the patterns that it has read so far, oldest first: the
last of them, at most sixty-four, each once and with what reading it came to
(`PatternCache.Remembers`). Every way in which a pattern is asked for keeps this:
it is remembered, or it cannot be read, or it is read anew with room for it or in
the place of the oldest.

What is remembered of a pattern is therefore what reading it would give again,
and no answer depends on anything else. So the memory never shows, whatever calls
there were before (`Session.memory_never_shows`). Nothing of this depends on which
patterns can be read or on what they match, so the reader of patterns is left open.
-/

namespace Abac

namespace PatternCache

variable {patterns : PatternReader} {c : PatternCache} {history : List String} {text : String}
  {occursIn : String → Bool}

/-- The texts of the remembered patterns, the one that was read first at the front. -/
def texts (c : PatternCache) : List String := c.entries.map Prod.fst

/-- What is read when a pattern is asked for: nothing if the pattern is remembered or cannot be
read. -/
def readAnew (patterns : PatternReader) (c : PatternCache) (text : String) : List String :=
  match c.find? text, patterns text with
  | none, .ok _ => [text]
  | _, _ => []

theorem mem_of_find? (h : c.find? text = some occursIn) : (text, occursIn) ∈ c.entries := by
  obtain ⟨⟨t, q⟩, he, rfl⟩ := Option.map_eq_some_iff.mp h
  have ht := List.find?_some he
  obtain rfl : t = text := eq_of_beq ht
  exact List.mem_of_find?_eq_some he

theorem find?_eq_none_iff : c.find? text = none ↔ text ∉ c.texts := by
  rw [find?, Option.map_eq_none_iff, List.find?_eq_none, texts, List.mem_map]
  constructor
  · rintro h ⟨e, he, rfl⟩
    exact h e he (beq_self_eq_true _)
  · intro h e he heq
    exact h ⟨e, he, eq_of_beq heq⟩

/-- The entries that stay when one more comes. -/
def kept (c : PatternCache) : List (String × (String → Bool)) :=
  if c.entries.length < capacity then c.entries else c.entries.tail

theorem entries_insert (c : PatternCache) (text : String) (occursIn : String → Bool) :
    (c.insert text occursIn).entries = c.kept ++ [(text, occursIn)] := rfl

theorem kept_sublist (c : PatternCache) : c.kept.Sublist c.entries := by
  unfold kept
  split
  · exact List.Sublist.refl _
  · exact List.tail_sublist _

/-- A cache remembers the last of the patterns in a history, oldest first. -/
structure Remembers (patterns : PatternReader) (c : PatternCache) (history : List String) :
    Prop where
  /-- The last ones are there, as many as there is room for. -/
  texts_eq : c.texts = history.rtake capacity
  /-- No pattern is there twice. -/
  nodup : c.texts.Nodup
  /-- What is remembered for a text is what reading it gives. -/
  read : ∀ e ∈ c.entries, patterns e.1 = .ok e.2

/-- Where nothing was read, nothing is remembered. -/
theorem remembers_empty : empty.Remembers patterns [] where
  texts_eq := rfl
  nodup := List.nodup_nil
  read := fun _ he => nomatch he

namespace Remembers

theorem length_eq (h : c.Remembers patterns history) :
    c.entries.length = min history.length capacity := by
  have hl := congrArg List.length h.texts_eq
  rw [texts, List.length_map, List.rtake_eq_reverse_take_reverse, List.length_reverse,
    List.length_take, List.length_reverse] at hl
  rw [hl, Nat.min_comm]

/-- The patterns that stay are the last of the history, too. -/
theorem texts_kept (h : c.Remembers patterns history) :
    c.kept.map Prod.fst = history.rtake (capacity - 1) := by
  have hl := h.length_eq
  have hc : capacity = 64 := rfl
  unfold kept
  split
  · have hs : history.length - (capacity - 1) = 0 := by omega
    have hs' : history.length - capacity = 0 := by omega
    rw [← texts, h.texts_eq, List.rtake, List.rtake, hs, hs']
  · have hs : history.length - (capacity - 1) = history.length - capacity + 1 := by omega
    rw [List.map_tail, ← texts, h.texts_eq, List.rtake, List.rtake, hs, List.tail_drop]

/-- **One more pattern** goes to the end, and the oldest makes way for it if there is no room. -/
theorem insert (h : c.Remembers patterns history) (hn : text ∉ c.texts)
    (hp : patterns text = .ok occursIn) :
    (c.insert text occursIn).Remembers patterns (history ++ [text]) := by
  have ht : (c.insert text occursIn).texts = c.kept.map Prod.fst ++ [text] := by
    rw [texts, entries_insert, List.map_append]
    rfl
  have hs : (c.kept.map Prod.fst).Sublist c.texts := c.kept_sublist.map Prod.fst
  constructor
  · rw [ht, h.texts_kept]
    exact (List.rtake_concat_succ history (capacity - 1) text).symm
  · rw [ht, ← List.concat_eq_append]
    exact List.Nodup.concat (fun hm => hn (hs.subset hm)) (h.nodup.sublist hs)
  · intro e he
    rw [entries_insert] at he
    rcases List.mem_append.mp he with he | he
    · exact h.read e (c.kept_sublist.subset he)
    · rw [List.mem_singleton.mp he]
      exact hp

/-- What reading through the memory gives is what reading gives. -/
theorem read_fst (h : c.Remembers patterns history) (text : String) :
    (c.read patterns text).1 = patterns text := by
  unfold PatternCache.read
  split
  · exact (h.read _ (mem_of_find? ‹_›)).symm
  · split <;> simp_all

/-- **Reading a pattern through the memory** leaves the last of the patterns that were read. -/
theorem read_snd (h : c.Remembers patterns history) (text : String) :
    (c.read patterns text).2.Remembers patterns (history ++ c.readAnew patterns text) := by
  unfold PatternCache.read readAnew
  cases hf : c.find? text with
  | some occursIn => simpa using h
  | none =>
      cases hp : patterns text with
      | error reason => simpa using h
      | ok occursIn => exact h.insert (find?_eq_none_iff.mp hf) hp

end Remembers

end PatternCache

/-! ## Calls -/

/-- A call of a pattern matching function. -/
structure PatternCall where
  /-- The type of the values that the function searches. -/
  dataType : DataType
  args : List Argument
  /-- Where the call is made. -/
  surroundings : Surroundings

namespace PatternCall

/-- The pattern that is searched for and the text that is searched. -/
def operands (c : PatternCall) : Except Halt (String × String) :=
  let f : StandardFunction := .patternMatch c.dataType
  checkArity f.id f.arity c.args *> patternArguments f.id c.dataType c.args

/-- The answer of a function that remembers nothing. -/
def plain (patterns : PatternReader) (c : PatternCall) : Except Halt Outcome :=
  Function.apply (.standard (.patternMatch c.dataType)) c.args { c.surroundings with patterns }

theorem plain_eq (patterns : PatternReader) (c : PatternCall) :
    c.plain patterns = c.operands >>= fun o =>
      patternAnswer (StandardFunction.patternMatch c.dataType).id o.2 (patterns o.1) := by
  unfold plain operands Function.apply
  cases c.args.length <;>
    simp only [applyNested, applyWith, StandardFunction.applyFirstOrder, applyPatternMatch,
      seqRight_eq_bind, bind_assoc]

end PatternCall

namespace Session

variable {patterns : PatternReader} {s : Session} {history : DataType → List String}

/-- The answer of a session to a call, and the session after it. -/
def call (patterns : PatternReader) (s : Session) (c : PatternCall) :
    Except Halt Outcome × Session :=
  s.apply (.standard (.patternMatch c.dataType)) c.args { c.surroundings with patterns }

/-- The answers of a session to calls, one after another. -/
def answers (patterns : PatternReader) (s : Session) : List PatternCall → List (Except Halt Outcome)
  | [] => []
  | c :: rest => (s.call patterns c).1 :: (s.call patterns c).2.answers patterns rest

/-- The session after calls. -/
def afterAll (patterns : PatternReader) (s : Session) : List PatternCall → Session
  | [] => s
  | c :: rest => (s.call patterns c).2.afterAll patterns rest

/-- The pattern that a session reads for a call; none if it does not come to that. -/
def readAnew (patterns : PatternReader) (s : Session) (c : PatternCall) : List String :=
  match c.operands with
  | .ok (pattern, _) => (s.caches c.dataType).readAnew patterns pattern
  | .error _ => []

/-- The patterns that the function for a type reads in the course of calls, oldest first. -/
def patternsRead (patterns : PatternReader) (s : Session) (t : DataType) :
    List PatternCall → List String
  | [] => []
  | c :: rest =>
    (if c.dataType = t then s.readAnew patterns c else []) ++
      (s.call patterns c).2.patternsRead patterns t rest

/-- Each function remembers the last of the patterns in its history. -/
def Remembers (patterns : PatternReader) (s : Session) (history : DataType → List String) : Prop :=
  ∀ t, (s.caches t).Remembers patterns (history t)

theorem remembers_fresh : fresh.Remembers patterns fun _ => [] :=
  fun _ => PatternCache.remembers_empty

theorem call_of_ok {c : PatternCall} {pattern text : String}
    (h : c.operands = .ok (pattern, text)) :
    s.call patterns c =
      (patternAnswer (StandardFunction.patternMatch c.dataType).id text
        ((s.caches c.dataType).read patterns pattern).1,
      s.setCache c.dataType ((s.caches c.dataType).read patterns pattern).2) := by
  unfold PatternCall.operands at h
  simp only [call, apply, applyPatternMatch, h]

theorem call_of_error {c : PatternCall} {halt : Halt} (h : c.operands = .error halt) :
    s.call patterns c = (.error halt, s) := by
  unfold PatternCall.operands at h
  simp only [call, apply, applyPatternMatch, h]

namespace Remembers

/-- What a function remembers does not change its answers. -/
theorem answer_eq (h : s.Remembers patterns history) (c : PatternCall) :
    (s.call patterns c).1 = c.plain patterns := by
  rw [c.plain_eq]
  cases ho : c.operands with
  | error halt => rw [call_of_error ho]; rfl
  | ok o =>
      rw [call_of_ok ho, (h c.dataType).read_fst]
      rfl

/-- **A call** adds the pattern that it reads to the history of its function, and to no other. -/
theorem after (h : s.Remembers patterns history) (c : PatternCall) :
    (s.call patterns c).2.Remembers patterns fun t =>
      history t ++ if c.dataType = t then s.readAnew patterns c else [] := by
  intro t
  cases ho : c.operands with
  | error halt =>
      rw [call_of_error ho]
      simpa [readAnew, ho] using h t
  | ok o =>
      rw [call_of_ok ho]
      by_cases ht : c.dataType = t
      · subst ht
        simpa [readAnew, ho, setCache] using (h c.dataType).read_snd o.1
      · simpa [setCache, ht, Ne.symm ht] using h t

/-- **Calls** leave the last of the patterns that were read. -/
theorem afterAll (h : s.Remembers patterns history) (calls : List PatternCall) :
    (s.afterAll patterns calls).Remembers patterns fun t =>
      history t ++ s.patternsRead patterns t calls := by
  induction calls generalizing s history with
  | nil => simpa only [Session.afterAll, patternsRead, List.append_nil] using h
  | cons c rest ih =>
      simpa only [Session.afterAll, patternsRead, List.append_assoc] using ih (h.after c)

theorem answers_eq (h : s.Remembers patterns history) (calls : List PatternCall) :
    s.answers patterns calls = calls.map (PatternCall.plain patterns) := by
  induction calls generalizing s history with
  | nil => rfl
  | cons c rest ih => rw [answers, List.map_cons, h.answer_eq c, ih (h.after c)]

end Remembers

/-- **The memory of patterns never shows.** Whatever calls there were, each was answered as a fresh
session would answer it, and each function remembers at most sixty-four patterns: those that it read
last, in that order and each once, with what reading them gives. This is so for every reader of
patterns. -/
theorem memory_never_shows (patterns : PatternReader) (calls : List PatternCall) :
    fresh.answers patterns calls = calls.map (fun c => (fresh.call patterns c).1) ∧
      ∀ t, let cache := (fresh.afterAll patterns calls).caches t
        cache.entries.length ≤ 64 ∧ (cache.entries.map Prod.fst).Nodup ∧
          (∀ e ∈ cache.entries, patterns e.1 = .ok e.2) ∧
          cache.entries.map Prod.fst = (fresh.patternsRead patterns t calls).rtake 64 := by
  have hf : fresh.Remembers patterns fun _ => [] := remembers_fresh
  constructor
  · rw [hf.answers_eq calls, funext hf.answer_eq]
  · intro t cache
    have h : cache.Remembers patterns (fresh.patternsRead patterns t calls) := hf.afterAll calls t
    refine ⟨?_, h.nodup, h.read, h.texts_eq⟩
    rw [h.length_eq]
    exact Nat.min_le_right _ _

end Session

end Abac
