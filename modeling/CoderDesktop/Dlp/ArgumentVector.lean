import Mathlib.Algebra.Group.Nat.Defs
import CoderDesktop.Dlp.SandboxOps
import CoderDesktop.Semantics.Blocks

/-!
# The argument vector in memory

`dlp_build_bwrap_args` with its memory: `PUSH` doubles the vector when only the place of
the terminator is left, and duplicates the argument. Any allocation may fail, and then
everything is released. The requests for memory are numbered in their order.
-/

namespace CoderDesktop.Dlp

open Semantics

/-- `INT_MAX` -/
def intMax : Nat := 2 ^ 31 - 1

/-- An element of a vector of `char*`. -/
inductive Slot where
  | null
  | pointer (address : Nat)
  /-- What `realloc` adds. -/
  | indeterminate
deriving DecidableEq, Repr

/-- What is allocated. -/
inductive Block where
  | string (text : String)
  | vector (slots : List Slot)
deriving DecidableEq, Repr

/-- The elements of a vector, if there is one at the address. -/
def slotsAt (heap : Arena Block) (argv : Nat) : Option (List Slot) :=
  match heap.cells argv with
  | some (.vector slots) => some slots
  | _ => none

/-- `free(argv[index])`; to read outside of the vector, or to free what was not allocated,
is a fault. -/
def freeEntry (argv : Nat) (heap : Arena Block) (index : Nat) : Arena Block :=
  match (slotsAt heap argv).bind (·[index]?) with
  | some .null => heap
  | some (.pointer address) => heap.destroy (some address)
  | _ => heap.access none

/-- The variables of `dlp_build_bwrap_args`, the heap, and the number of requests made. -/
structure ArgVector where
  heap : Arena Block
  argv : Nat
  argc : Nat
  capacity : Nat
  requests : Nat

/-- Why the pushing ends early. -/
inductive Stop where
  /-- `goto oom` -/
  | oom (vec : ArgVector)
  /-- An `int` overflows, or a block is accessed where it is not. -/
  | undefined

namespace ArgVector

/-- The vector as `calloc` returns it. -/
def initial : ArgVector where
  heap := Arena.empty.create (.vector (List.replicate 64 .null))
  argv := 0
  argc := 0
  capacity := 64
  requests := 1

/-- `argv[argc] = slot` -/
def store (slot : Slot) (vec : ArgVector) : Except Stop ArgVector :=
  match slotsAt vec.heap vec.argv with
  | none => .error .undefined
  | some slots =>
      if vec.argc < slots.length then
        .ok { vec with
          heap := vec.heap.write (some vec.argv) (.vector (slots.set vec.argc slot)) }
      else .error .undefined

/-- The first part of `PUSH`. The old vector is released by `realloc`. -/
def grow (allocates : Nat → Bool) (vec : ArgVector) : Except Stop ArgVector :=
  if vec.capacity - 1 ≤ vec.argc then
    if intMax < 2 * vec.capacity then .error .undefined
    else
      let asked :=
        { vec with capacity := 2 * vec.capacity, requests := vec.requests + 1 }
      if allocates vec.requests then
        match slotsAt vec.heap vec.argv with
        | none => .error .undefined
        | some slots =>
            let moved := slots ++ List.replicate (asked.capacity - slots.length) .indeterminate
            .ok { asked with
              heap := (vec.heap.create (.vector moved)).destroy (some vec.argv)
              argv := vec.heap.next }
      else .error (.oom asked)
  else .ok vec

/-- The second part: the entry is counted whether it could be duplicated or not. -/
def append (allocates : Nat → Bool) (text : String) (vec : ArgVector) : Except Stop ArgVector :=
  let asked := { vec with requests := vec.requests + 1 }
  if allocates vec.requests then
    match store (.pointer vec.heap.next)
      { asked with heap := vec.heap.create (.string text) } with
    | .error stop => .error stop
    | .ok stored => .ok { stored with argc := stored.argc + 1 }
  else
    match store .null asked with
    | .error stop => .error stop
    | .ok stored => .error (.oom { stored with argc := stored.argc + 1 })

/-- `PUSH` -/
def push (allocates : Nat → Bool) (vec : ArgVector) (text : String) : Except Stop ArgVector :=
  match vec.grow allocates with
  | .error stop => .error stop
  | .ok grown => grown.append allocates text

/-- What follows the label `oom`. -/
def release (vec : ArgVector) : Arena Block :=
  ((List.range vec.argc).foldl (freeEntry vec.argv) vec.heap).destroy (some vec.argv)

end ArgVector

/-- How `dlp_build_bwrap_args` ends: without memory it returns NULL. -/
inductive Build where
  | built (heap : Arena Block) (argv : Nat)
  | failed (heap : Arena Block)
  | undefined

/-- The arguments are pushed one after the other, and the terminator is stored. -/
def buildVector (allocates : Nat → Bool) (args : List String) : Build :=
  if allocates 0 then
    match args.foldlM (ArgVector.push allocates) ArgVector.initial with
    | .error (.oom vec) => .failed vec.release
    | .error .undefined => .undefined
    | .ok vec =>
        match vec.store .null with
        | .error _ => .undefined
        | .ok terminated => .built terminated.heap terminated.argv
  else .failed .empty

/-- The loop of `dlp_free_bwrap_args`, which runs to the first null. Past the end of the
vector there is nothing to be read. -/
def freeFrom (argv : Nat) : Nat → Nat → Arena Block → Arena Block
  | 0, _, heap => heap.access none
  | fuel + 1, index, heap =>
      if (slotsAt heap argv).bind (·[index]?) = some .null then heap
      else freeFrom argv fuel (index + 1) (freeEntry argv heap index)

/-- Each string is freed up to the first null, then the vector. -/
def dlpFreeBwrapArgs (heap : Arena Block) (argv : Nat) : Arena Block :=
  (freeFrom argv ((slotsAt heap argv).elim 0 List.length) 0 heap).destroy (some argv)

/-- The vector that `dlp_build_bwrap_args` builds of what it pushes. -/
def dlpBuildBwrapVector (allocates : Nat → Bool) (host : Host) (comp : LaunchContext)
    (command : String) (sandbox : Option SandboxConfig) (dbusProxySocket : Option String) : Build :=
  buildVector allocates (dlpBuildBwrapArgs host comp command sandbox dbusProxySocket)

/-! ## What is asked of the memory -/

/-- Everything was released: nothing is left, and nothing was released or used after it was
released. -/
def Released (heap : Arena Block) : Prop := heap.Holds []

/-- The vector has a live string for each argument, in their order, and then null. -/
structure Terminated (heap : Arena Block) (argv : Nat) (args : List String) : Prop where
  sound : heap.faulted = false
  entries : ∃ slots : List Slot, slotsAt heap argv = some slots ∧ slots[args.length]? = some .null ∧
    ∀ (index : Nat) (text : String), args[index]? = some text → ∃ address,
      slots[index]? = some (.pointer address) ∧ heap.cells address = some (.string text)

/-- No access is outside of a block. A vector that is returned can be used and then be
released, once; otherwise everything is released by the time NULL is returned. -/
def Build.Safe (args : List String) : Build → Prop
  | .built heap argv => Terminated heap argv args ∧ Released (dlpFreeBwrapArgs heap argv)
  | .failed heap => Released heap
  | .undefined => False

/-! ## Entries and their strings -/

/-- The elements that point to the strings of the entries. -/
def pointers (entries : List (Nat × String)) : List Slot :=
  entries.map fun entry => .pointer entry.1

/-- The blocks of the entries. -/
def strings (entries : List (Nat × String)) : List (Nat × Block) :=
  entries.map fun entry => (entry.1, .string entry.2)

section Entries

variable {heap : Arena Block} {argv : Nat} {entries : List (Nat × String)} {spare : List Slot}

/-- There is one pointer for each argument. -/
theorem length_pointers : (pointers entries).length = entries.length := List.length_map _

/-- The slots are those of the block that is held. -/
theorem slotsAt_of_holds {slots : List Slot} {others : List (Nat × Block)}
    (holds : heap.Holds ((argv, .vector slots) :: others)) : slotsAt heap argv = some slots := by
  unfold slotsAt
  rw [(holds.exact argv (.vector slots)).mpr List.mem_cons_self]

/-- One entry is released while the vector is still there. -/
theorem freeEntry_pointer {slots : List Slot} {others : List (Nat × Block)} {index address : Nat}
    {block : Block} (holds : heap.Holds ((argv, .vector slots) :: (address, block) :: others))
    (here : slots[index]? = some (.pointer address)) :
    (freeEntry argv heap index).Holds ((argv, .vector slots) :: others) := by
  unfold freeEntry
  rw [slotsAt_of_holds holds, Option.bind_some, here]
  exact (holds.perm (.swap _ _ _)).destroy

/-- The slot after those that are done points to the next argument. -/
theorem getElem?_pointers (done : List (Nat × String)) (entry : Nat × String)
    (rest : List (Nat × String)) :
    (pointers (done ++ entry :: rest) ++ spare)[done.length]? = some (.pointer entry.1) := by
  simp [pointers]

/-- The loop of `oom` over the entries that are left. -/
theorem foldl_freeEntry (done rest : List (Nat × String))
    (holds : heap.Holds ((argv, .vector (pointers (done ++ rest) ++ spare)) :: strings rest)) :
    ((List.range' done.length rest.length).foldl (freeEntry argv) heap).Holds
      [(argv, .vector (pointers (done ++ rest) ++ spare))] := by
  induction rest generalizing done heap with
  | nil => exact holds
  | cons entry rest inductionHypothesis =>
      have freed := freeEntry_pointer holds (getElem?_pointers done entry rest)
      have further := inductionHypothesis (done ++ [entry]) (by
        rw [List.append_assoc, List.singleton_append]
        exact freed)
      rw [List.append_assoc, List.singleton_append, List.length_append] at further
      rw [List.length_cons, List.range'_succ, List.foldl_cons]
      exact further

/-- The loop of `dlp_free_bwrap_args` over the entries that are left. -/
theorem freeFrom_entries (done rest : List (Nat × String)) {fuel : Nat}
    (enough : rest.length < fuel) {unused : List Slot}
    (holds : heap.Holds
      ((argv, .vector (pointers (done ++ rest) ++ .null :: unused)) :: strings rest)) :
    (freeFrom argv fuel done.length heap).Holds
      [(argv, .vector (pointers (done ++ rest) ++ .null :: unused))] := by
  induction rest generalizing done heap fuel with
  | nil =>
      obtain ⟨fuel, rfl⟩ := Nat.exists_eq_succ_of_ne_zero (Nat.ne_of_gt enough)
      have null : (slotsAt heap argv).bind (·[done.length]?) = some .null := by
        rw [slotsAt_of_holds holds]
        simp [pointers]
      rw [freeFrom, if_pos null]
      exact holds
  | cons entry rest inductionHypothesis =>
      obtain ⟨fuel, rfl⟩ := Nat.exists_eq_succ_of_ne_zero (Nat.ne_of_gt (Nat.zero_lt_of_lt enough))
      have here := @getElem?_pointers (.null :: unused) done entry rest
      have pointed : (slotsAt heap argv).bind (·[done.length]?) ≠ some .null := by
        rw [slotsAt_of_holds holds, Option.bind_some, here]
        nofun
      have further := inductionHypothesis (done ++ [entry]) (Nat.lt_of_succ_lt_succ enough) (by
        rw [List.append_assoc, List.singleton_append]
        exact freeEntry_pointer holds here)
      rw [List.append_assoc, List.singleton_append, List.length_append] at further
      rw [freeFrom, if_neg pointed]
      exact further

end Entries

/-! ## What has been pushed -/

/-- The heap is the vector with its strings; the capacity is the length of the block. -/
structure Filled (vec : ArgVector) (entries : List (Nat × String)) (spare : List Slot) : Prop where
  holds : vec.heap.Holds
    ((vec.argv, .vector (pointers entries ++ spare)) :: strings entries)
  count : vec.argc = entries.length
  room : vec.capacity = entries.length + spare.length

/-- How far the doubling has gone. All the requests made were granted. -/
structure Counted (allocates : Nat → Bool) (doublings : Nat) (vec : ArgVector) : Prop where
  bounded : doublings ≤ 24
  capacity : vec.capacity = 2 ^ (6 + doublings)
  within : vec.argc < vec.capacity
  requests : vec.requests = 1 + vec.argc + doublings
  granted : ∀ request < vec.requests, allocates request = true

namespace ArgVector

variable {allocates : Nat → Bool} {vec : ArgVector} {entries : List (Nat × String)}
  {spare : List Slot} {doublings : Nat}

/-- An initial vector has 64 unused slots. -/
theorem filled_initial : Filled initial [] (List.replicate 64 .null) where
  holds := Arena.holds_empty.create _
  count := rfl
  room := rfl

/-- An initial vector has asked for memory once. -/
theorem counted_initial (granted : allocates 0 = true) : Counted allocates 0 initial where
  bounded := Nat.zero_le _
  capacity := rfl
  within := by decide
  requests := rfl
  granted request below := by
    obtain rfl : request = 0 := Nat.lt_one_iff.mp below
    exact granted

/-- The capacity never exceeds the largest power of two that an `int` holds. -/
theorem capacity_le (counted : Counted allocates doublings vec) : vec.capacity ≤ 2 ^ 30 := by
  have bounded := counted.bounded
  rw [counted.capacity]
  exact Nat.pow_le_pow_right (by decide) (by omega)

/-- As long as the capacity is not used up, the block has an element to spare. -/
theorem exists_spare (filled : Filled vec entries spare) (within : vec.argc < vec.capacity) :
    ∃ unused rest, spare = unused :: rest := by
  have room := filled.room
  have count := filled.count
  cases spare with
  | nil =>
      rw [List.length_nil] at room
      omega
  | cons unused rest => exact ⟨unused, rest, rfl⟩

/-- A store behind the entries is inside the block. -/
theorem store_eq {unused : Slot} {rest : List Slot} {others : List (Nat × Block)}
    (holds : vec.heap.Holds ((vec.argv, .vector (pointers entries ++ unused :: rest)) :: others))
    (count : vec.argc = entries.length) (slot : Slot) :
    vec.store slot = .ok { vec with
      heap := vec.heap.write (some vec.argv) (.vector (pointers entries ++ slot :: rest)) } := by
  have inside : vec.argc < (pointers entries ++ unused :: rest).length := by
    rw [count, List.length_append, length_pointers, List.length_cons]
    omega
  have here : (pointers entries ++ unused :: rest).set vec.argc slot =
      pointers entries ++ slot :: rest := by
    rw [count, ← length_pointers]
    simp
  unfold store
  rw [slotsAt_of_holds holds]
  dsimp only
  rw [if_pos inside, here]

/-! ## Releasing everything -/

/-- The failure path of a vector whose last entry could not be duplicated, or was not tried. -/
theorem released_of_oom {stopped : ArgVector} {extra : List Slot}
    (holds : stopped.heap.Holds
      ((stopped.argv, .vector (pointers entries ++ extra)) :: strings entries))
    (count : stopped.argc = entries.length ∨
      stopped.argc = entries.length + 1 ∧ ∃ rest, extra = .null :: rest) :
    Released stopped.release := by
  have freed := foldl_freeEntry [] entries holds
  rw [List.nil_append, List.length_nil, ← List.range_eq_range'] at freed
  unfold release Released
  rcases count with count | ⟨count, rest, rfl⟩
  · rw [count]
    exact freed.destroy
  · rw [count, List.range_succ, List.foldl_append, List.foldl_cons, List.foldl_nil]
    have last : (slotsAt ((List.range entries.length).foldl (freeEntry stopped.argv) stopped.heap)
        stopped.argv).bind (·[entries.length]?) = some .null := by
      rw [slotsAt_of_holds freed]
      simp [pointers]
    have skipped : freeEntry stopped.argv
        ((List.range entries.length).foldl (freeEntry stopped.argv) stopped.heap) entries.length =
          (List.range entries.length).foldl (freeEntry stopped.argv) stopped.heap := by
      unfold freeEntry at last ⊢
      rw [last]
    rw [skipped]
    exact freed.destroy

/-! ## One push -/

/-- A request that is refused before the capacity could overflow. -/
def Refused (allocates : Nat → Bool) : Prop := ∃ request < 2 ^ 30 + 24, allocates request = false

/-- Where a push stops: it overflows with every request granted before, or it was refused
one and everything is released. -/
def StopsAt (allocates : Nat → Bool) (pushed : Nat) : Stop → Prop
  | .undefined => 2 ^ 30 ≤ pushed ∧ ∀ request < 2 ^ 30 + 24, allocates request = true
  | .oom stopped => Released stopped.release ∧ Refused allocates

/-- The vector after `realloc` has moved it. -/
def moved (vec : ArgVector) (slots : List Slot) : ArgVector where
  heap := (vec.heap.create (.vector slots)).destroy (some vec.argv)
  argv := vec.heap.next
  argc := vec.argc
  capacity := 2 * vec.capacity
  requests := vec.requests + 1

/-- The vector grows when full, unless the size overflows or memory is refused. -/
theorem grow_eq (filled : Filled vec entries spare) : vec.grow allocates =
    if vec.argc + 1 < vec.capacity then .ok vec
    else if intMax < 2 * vec.capacity then .error .undefined
    else if allocates vec.requests then
      .ok (vec.moved (pointers entries ++
        (spare ++ List.replicate vec.capacity .indeterminate)))
    else .error (.oom { vec with capacity := 2 * vec.capacity, requests := vec.requests + 1 }) := by
  have length : 2 * vec.capacity - (pointers entries ++ spare).length = vec.capacity := by
    rw [List.length_append, length_pointers, ← filled.room]
    omega
  unfold grow
  rw [slotsAt_of_holds filled.holds]
  dsimp only
  rw [length, List.append_assoc]
  by_cases roomy : vec.argc + 1 < vec.capacity
  · rw [if_neg (by omega), if_pos roomy]
  · rw [if_pos (by omega), if_neg roomy]
    rfl

/-- A vector that has moved has the same arguments and more room. -/
theorem filled_moved (filled : Filled vec entries spare) :
    Filled (vec.moved (pointers entries ++ (spare ++ List.replicate vec.capacity .indeterminate)))
      entries (spare ++ List.replicate vec.capacity .indeterminate) where
  holds := by
    have created := filled.holds.create (.vector (pointers entries ++
      (spare ++ List.replicate vec.capacity .indeterminate)))
    exact (created.perm (.swap _ _ _)).destroy
  count := filled.count
  room := by
    have room := filled.room
    rw [List.length_append, List.length_replicate]
    change 2 * vec.capacity = _
    omega

/-- One more request that is granted. -/
theorem granted_succ (counted : Counted allocates doublings vec)
    (granted : allocates vec.requests = true) (request : Nat) (below : request < vec.requests + 1) :
    allocates request = true := by
  rcases Nat.lt_succ_iff_lt_or_eq.mp below with earlier | rfl
  · exact counted.granted request earlier
  · exact granted

/-- A doubling is counted. -/
theorem counted_moved (counted : Counted allocates doublings vec) (slots : List Slot)
    (fits : ¬ intMax < 2 * vec.capacity) (granted : allocates vec.requests = true) :
    Counted allocates (doublings + 1) (vec.moved slots) where
  bounded := by
    by_contra more
    have last : doublings = 24 := by
      have bounded := counted.bounded
      omega
    rw [counted.capacity, last] at fits
    exact fits (by decide)
  capacity := by
    change 2 * vec.capacity = _
    rw [counted.capacity, ← Nat.add_assoc, Nat.pow_succ, Nat.mul_comm]
  within := by
    have within := counted.within
    change vec.argc < 2 * vec.capacity
    omega
  requests := by
    have requests := counted.requests
    change vec.requests + 1 = 1 + vec.argc + (doublings + 1)
    omega
  granted := granted_succ counted granted

/-- Where doubling overflows the capacity has been doubled as often as possible. -/
theorem doublings_of_overflow (counted : Counted allocates doublings vec)
    (overflows : intMax < 2 * vec.capacity) : doublings = 24 := by
  by_contra fewer
  have bounded := counted.bounded
  have below : 2 ^ (6 + doublings) ≤ 2 ^ 29 := Nat.pow_le_pow_right (by decide) (by omega)
  rw [counted.capacity] at overflows
  unfold intMax at overflows
  omega

/-- A push finds room for the entry and the terminator, or it stops. -/
theorem grow_cases (filled : Filled vec entries spare) (counted : Counted allocates doublings vec) :
    (∃ stop, vec.grow allocates = .error stop ∧ StopsAt allocates (entries.length + 1) stop) ∨
      ∃ grown spare doublings, vec.grow allocates = .ok grown ∧ grown.argc + 1 < grown.capacity ∧
        Filled grown entries spare ∧ Counted allocates doublings grown := by
  have count := filled.count
  have within := counted.within
  have requests := counted.requests
  rw [grow_eq filled]
  by_cases roomy : vec.argc + 1 < vec.capacity
  · rw [if_pos roomy]
    exact .inr ⟨vec, spare, doublings, rfl, roomy, filled, counted⟩
  rw [if_neg roomy]
  by_cases overflows : intMax < 2 * vec.capacity
  · rw [if_pos overflows]
    have last := doublings_of_overflow counted overflows
    have capacity := counted.capacity
    rw [last] at capacity
    refine .inl ⟨.undefined, rfl, by omega, fun request below => counted.granted request ?_⟩
    omega
  rw [if_neg overflows]
  cases granted : allocates vec.requests with
  | true =>
      refine .inr ⟨_, _, doublings + 1, rfl, ?_, filled_moved filled,
        counted_moved counted _ overflows granted⟩
      change vec.argc + 1 < 2 * vec.capacity
      omega
  | false =>
      refine .inl ⟨_, rfl, released_of_oom filled.holds (.inl count), vec.requests, ?_, granted⟩
      have bounded := counted.bounded
      unfold intMax at overflows
      omega

/-- The vector after an entry was appended. -/
def appended (vec : ArgVector) (text : String) (slots : List Slot) : ArgVector where
  heap := (vec.heap.create (.string text)).write (some vec.argv) (.vector slots)
  argv := vec.argv
  argc := vec.argc + 1
  capacity := vec.capacity
  requests := vec.requests + 1

section Append

variable {unused : Slot} {rest : List Slot} {text : String}

/-- The string is there before the vector points to it. -/
theorem holds_duplicated (filled : Filled vec entries (unused :: rest)) (text : String) :
    (vec.heap.create (.string text)).Holds
      ((vec.argv, .vector (pointers entries ++ unused :: rest)) ::
        (vec.heap.next, .string text) :: strings entries) :=
  (filled.holds.create (.string text)).perm (.swap _ _ _)

/-- An argument whose copy is granted is appended. -/
theorem append_of_granted (filled : Filled vec entries (unused :: rest))
    (granted : allocates vec.requests = true) : vec.append allocates text =
      .ok (vec.appended text (pointers entries ++ .pointer vec.heap.next :: rest)) := by
  have stored := @store_eq { vec with
    heap := vec.heap.create (.string text), requests := vec.requests + 1 } entries unused rest _
    (holds_duplicated filled text) filled.count (.pointer vec.heap.next)
  unfold append
  dsimp only at stored ⊢
  rw [if_pos granted, stored]
  rfl

/-- An argument whose copy is refused ends in the error path, with a null slot. -/
theorem append_of_refused (filled : Filled vec entries (unused :: rest))
    (refused : allocates vec.requests = false) : vec.append allocates text =
      .error (.oom { vec with
        heap := vec.heap.write (some vec.argv) (.vector (pointers entries ++ .null :: rest))
        argc := vec.argc + 1
        requests := vec.requests + 1 }) := by
  have stored := @store_eq { vec with requests := vec.requests + 1 } entries unused rest _
    filled.holds filled.count .null
  unfold append
  dsimp only at stored ⊢
  rw [if_neg (Bool.not_eq_true _ ▸ refused), stored]

/-- After appending, the vector has the argument as its last. -/
theorem filled_appended (filled : Filled vec entries (unused :: rest)) (text : String) :
    Filled (vec.appended text (pointers entries ++ .pointer vec.heap.next :: rest))
      (entries ++ [(vec.heap.next, text)]) rest where
  holds := by
    have written := (holds_duplicated filled text).write
      (.vector (pointers entries ++ .pointer vec.heap.next :: rest))
    have last : pointers (entries ++ [(vec.heap.next, text)]) ++ rest =
        pointers entries ++ .pointer vec.heap.next :: rest := by
      simp [pointers]
    have block : strings (entries ++ [(vec.heap.next, text)]) =
        strings entries ++ [(vec.heap.next, .string text)] := by
      simp [strings]
    rw [last, block]
    exact written.perm (.cons _ (List.perm_append_singleton _ _).symm)
  count := by
    rw [List.length_append, List.length_singleton]
    exact congrArg (· + 1) filled.count
  room := by
    have room := filled.room
    rw [List.length_cons] at room
    rw [List.length_append, List.length_singleton]
    change vec.capacity = _
    omega

/-- Appending is no doubling. -/
theorem counted_appended (counted : Counted allocates doublings vec)
    (roomy : vec.argc + 1 < vec.capacity) (granted : allocates vec.requests = true)
    (slots : List Slot) : Counted allocates doublings (vec.appended text slots) where
  bounded := counted.bounded
  capacity := counted.capacity
  within := roomy
  requests := by
    have requests := counted.requests
    change vec.requests + 1 = 1 + (vec.argc + 1) + doublings
    omega
  granted := granted_succ counted granted

end Append

/-- There is room for the entry; without memory for the string it is null. -/
theorem append_cases (filled : Filled vec entries spare)
    (counted : Counted allocates doublings vec) (roomy : vec.argc + 1 < vec.capacity)
    (text : String) :
    (∃ stop, vec.append allocates text = .error stop ∧
        StopsAt allocates (entries.length + 1) stop) ∨
      ∃ after address spare, vec.append allocates text = .ok after ∧
        Filled after (entries ++ [(address, text)]) spare ∧ Counted allocates doublings after := by
  obtain ⟨unused, rest, rfl⟩ := exists_spare filled counted.within
  cases granted : allocates vec.requests with
  | true =>
      exact .inr ⟨_, vec.heap.next, rest, append_of_granted filled granted,
        filled_appended filled text, counted_appended counted roomy granted _⟩
  | false =>
      have counts : vec.argc + 1 = entries.length + 1 := congrArg (· + 1) filled.count
      refine .inl ⟨_, append_of_refused filled granted, released_of_oom (filled.holds.write _)
        (.inr ⟨counts, rest, rfl⟩), vec.requests, ?_, granted⟩
      have requests := counted.requests
      have bounded := counted.bounded
      have small := capacity_le counted
      omega

/-- A push stops as `StopsAt` says, or appends. -/
theorem push_cases (filled : Filled vec entries spare) (counted : Counted allocates doublings vec)
    (text : String) :
    (∃ stop, vec.push allocates text = .error stop ∧
        StopsAt allocates (entries.length + 1) stop) ∨
      ∃ after address spare doublings, vec.push allocates text = .ok after ∧
        Filled after (entries ++ [(address, text)]) spare ∧ Counted allocates doublings after := by
  unfold push
  rcases grow_cases filled counted with ⟨stop, stops, why⟩ |
    ⟨grown, spare, doublings, grows, roomy, filled, counted⟩
  · rw [stops]
    exact .inl ⟨stop, rfl, why⟩
  · rw [grows]
    rcases append_cases filled counted roomy text with ⟨stop, stops, why⟩ |
      ⟨after, address, spare, appends, filled, counted⟩
    · exact .inl ⟨stop, stops, why⟩
    · exact .inr ⟨after, address, spare, doublings, appends, filled, counted⟩

/-! ## All the arguments -/

/-- What stops at a length stops at more. -/
theorem StopsAt.later {pushed later : Nat} {stop : Stop} (stops : StopsAt allocates pushed stop)
    (more : pushed ≤ later) : StopsAt allocates later stop := by
  cases stop with
  | undefined => exact ⟨Nat.le_trans stops.1 more, stops.2⟩
  | oom stopped => exact stops

/-- The pushes of a list of arguments, after those of others. -/
theorem foldlM_cases (filled : Filled vec entries spare)
    (counted : Counted allocates doublings vec) (args : List String) :
    (∃ stop, args.foldlM (push allocates) vec = .error stop ∧
        StopsAt allocates (entries.length + args.length) stop) ∨
      ∃ after all spare doublings, args.foldlM (push allocates) vec = .ok after ∧
        Filled after all spare ∧ Counted allocates doublings after ∧
          all.map Prod.snd = entries.map Prod.snd ++ args := by
  induction args generalizing vec entries spare doublings with
  | nil =>
      exact .inr ⟨vec, entries, spare, doublings, rfl, filled, counted, (List.append_nil _).symm⟩
  | cons text rest inductionHypothesis =>
      rw [List.foldlM_cons, List.length_cons]
      rcases push_cases filled counted text with ⟨stop, stops, why⟩ |
        ⟨next, address, spare, doublings, pushes, filled, counted⟩
      · rw [stops]
        exact .inl ⟨stop, rfl, why.later (by omega)⟩
      · rw [pushes]
        have further := inductionHypothesis filled counted
        rw [List.length_append, List.length_singleton, Nat.add_right_comm] at further
        rcases further with stops | ⟨after, all, spare, doublings, done, filled, counted, texts⟩
        · exact .inl stops
        · refine .inr ⟨after, all, spare, doublings, done, filled, counted, ?_⟩
          simpa using texts

end ArgVector

/-! ## The whole function -/

section Whole

variable {allocates : Nat → Bool} {args : List String}

/-- A vector with its terminator. -/
theorem terminated_of_holds {heap : Arena Block} {argv : Nat} {entries : List (Nat × String)}
    {unused : List Slot} (holds : heap.Holds
      ((argv, .vector (pointers entries ++ .null :: unused)) :: strings entries)) :
    Terminated heap argv (entries.map Prod.snd) ∧ Released (dlpFreeBwrapArgs heap argv) := by
  have vector := slotsAt_of_holds holds
  constructor
  · refine ⟨holds.sound, _, vector, by simp [pointers], fun index text given => ?_⟩
    rw [List.getElem?_map] at given
    obtain ⟨entry, here, rfl⟩ := Option.map_eq_some_iff.mp given
    have inside := (List.getElem?_eq_some_iff.mp here).1
    refine ⟨entry.1, ?_, ?_⟩
    · rw [List.getElem?_append_left (length_pointers ▸ inside), pointers, List.getElem?_map, here]
      rfl
    · apply (holds.exact _ _).mpr
      exact List.mem_cons_of_mem _ (List.mem_map.mpr ⟨entry, List.mem_of_getElem? here, rfl⟩)
  · have enough : entries.length < (pointers entries ++ .null :: unused).length := by
      rw [List.length_append, length_pointers, List.length_cons]
      omega
    have freed := freeFrom_entries [] entries enough holds
    unfold dlpFreeBwrapArgs
    rw [vector]
    exact freed.destroy

/-- Where the function can end, and what it did until then. -/
theorem buildVector_cases (allocates : Nat → Bool) (args : List String) :
    (buildVector allocates args = .undefined ∧ 2 ^ 30 ≤ args.length ∧
        ∀ request < 2 ^ 30 + 24, allocates request = true) ∨
      (∃ heap, buildVector allocates args = .failed heap ∧ Released heap ∧
        ArgVector.Refused allocates) ∨
      ∃ heap argv, buildVector allocates args = .built heap argv ∧ args.length < 2 ^ 30 ∧
        Terminated heap argv args ∧ Released (dlpFreeBwrapArgs heap argv) := by
  unfold buildVector
  cases granted : allocates 0 with
  | false =>
      rw [if_neg Bool.false_ne_true]
      exact .inr (.inl ⟨_, rfl, Arena.holds_empty, 0, by decide, granted⟩)
  | true =>
      rw [if_pos rfl]
      have pushes := ArgVector.foldlM_cases ArgVector.filled_initial
        (ArgVector.counted_initial granted) args
      rcases pushes with ⟨stop, stops, why⟩ |
        ⟨vec, entries, spare, doublings, done, filled, counted, texts⟩
      · rw [stops]
        cases stop with
        | undefined =>
            rw [List.length_nil, Nat.zero_add] at why
            exact .inl ⟨rfl, why⟩
        | oom stopped => exact .inr (.inl ⟨_, rfl, why⟩)
      · rw [done]
        have within := counted.within
        have count := filled.count
        have small := ArgVector.capacity_le counted
        obtain ⟨unused, rest, rfl⟩ := ArgVector.exists_spare filled within
        obtain rfl : entries.map Prod.snd = args := by
          simpa using texts
        dsimp only
        rw [ArgVector.store_eq filled.holds count .null]
        refine .inr (.inr ⟨_, _, rfl, ?_, terminated_of_holds (filled.holds.write _)⟩)
        rw [List.length_map]
        omega

/-- The memory is safe unless the capacity overflows. -/
theorem buildVector_safe_iff (allocates : Nat → Bool) (args : List String) :
    (buildVector allocates args).Safe args ↔
      args.length < 2 ^ 30 ∨ ∃ request < 2 ^ 30 + 24, allocates request = false := by
  rcases buildVector_cases allocates args with ⟨ends, many, granted⟩ |
    ⟨heap, ends, released, refused⟩ | ⟨heap, argv, ends, few, safe⟩
  · rw [ends]
    refine iff_of_false id ?_
    rintro (few | ⟨request, early, refused⟩)
    · omega
    · rw [granted request early] at refused
      cases refused
  · rw [ends]
    exact iff_of_true released (.inr refused)
  · rw [ends]
    exact iff_of_true safe (.inl few)

end Whole

/-! ## The number of the arguments -/

/-- The configuration without its array of paths. -/
def SandboxConfig.withoutExtraBinds (config : SandboxConfig) : SandboxConfig :=
  { config with extraBindPaths := none }

/-- Three arguments for each path that is not null. -/
theorem length_extraBindArgs (paths : List (Option String)) :
    (paths.flatMap fun
      | some path => ["--bind", path, path]
      | none => []).length = 3 * (paths.filterMap id).length := by
  induction paths with
  | nil => rfl
  | cons path rest inductionHypothesis =>
      cases path with
      | none => exact inductionHypothesis
      | some path =>
          rw [List.flatMap_cons, List.length_append, inductionHypothesis]
          simp only [List.length_cons, List.length_nil, List.filterMap_cons, id_eq]
          omega

/-- Each extra bind of the configuration is three arguments. -/
theorem length_userBindArgs (sandbox : Option SandboxConfig) :
    (userBindArgs sandbox).length =
      (userBindArgs (sandbox.map SandboxConfig.withoutExtraBinds)).length +
        3 * (sandbox.elim [] extraBinds).length := by
  cases sandbox with
  | none => rfl
  | some config =>
      have counted := length_extraBindArgs (config.extraBindPaths.getD [])
      simp only [userBindArgs, List.length_append, extraBinds, Option.map_some,
        Option.elim_some, SandboxConfig.withoutExtraBinds, Option.getD_none, List.flatMap_nil,
        List.length_nil, Nat.add_zero]
      exact congrArg (_ + ·) counted

/-- Three arguments are pushed for an extra bind. -/
theorem length_dlpBuildBwrapArgs (host : Host) (comp : LaunchContext) (command : String)
    (sandbox : Option SandboxConfig) (dbusProxySocket : Option String) :
    (dlpBuildBwrapArgs host comp command sandbox dbusProxySocket).length =
      (dlpBuildBwrapArgs host comp command (sandbox.map SandboxConfig.withoutExtraBinds)
        dbusProxySocket).length + 3 * (sandbox.elim [] extraBinds).length := by
  have root : rootArgs host (sandbox.map SandboxConfig.withoutExtraBinds) =
      rootArgs host sandbox := by
    cases sandbox <;> rfl
  have namespaces : namespaceArgs (sandbox.map SandboxConfig.withoutExtraBinds) =
      namespaceArgs sandbox := by
    cases sandbox <;> rfl
  have binds := length_userBindArgs sandbox
  simp only [dlpBuildBwrapArgs, List.length_append, root, namespaces]
  omega

/-- For every configuration, environment and pattern of allocation failures: the vector is
built, or everything is released and NULL returned, without an access out of bounds, if and
only if there are fewer than 2^30 arguments or a request fails before so many are pushed. -/
theorem argument_vector_safe_iff (allocates : Nat → Bool) (host : Host) (comp : LaunchContext)
    (command : String) (sandbox : Option SandboxConfig) (dbusProxySocket : Option String) :
    (dlpBuildBwrapVector allocates host comp command sandbox dbusProxySocket).Safe
        (dlpBuildBwrapArgs host comp command sandbox dbusProxySocket) ↔
      (dlpBuildBwrapArgs host comp command (sandbox.map SandboxConfig.withoutExtraBinds)
          dbusProxySocket).length + 3 * (sandbox.elim [] extraBinds).length < 2 ^ 30 ∨
        ∃ request < 2 ^ 30 + 24, allocates request = false := by
  rw [← length_dlpBuildBwrapArgs]
  exact buildVector_safe_iff allocates _

/-- A configuration with one path bound a number of times. -/
def boundOften (count : Nat) : SandboxConfig where
  workspacePath := none
  networkNamespace := none
  isolatePid := true
  isolateIpc := true
  isolateFilesystem := true
  bindHomeRw := false
  extraBindPaths := some (List.replicate count (some "/srv"))
  filterDbus := false

/-- The configuration binds as often as it says. -/
theorem length_extraBinds_boundOften (count : Nat) :
    (extraBinds (boundOften count)).length = count := by
  induction count with
  | zero => rfl
  | succ count inductionHypothesis => exact congrArg (· + 1) inductionHypothesis

/-- With enough extra binds, and memory for them all, the capacity overflows. -/
theorem not_safe_of_many {count : Nat} (many : 2 ^ 30 ≤ 3 * count) (host : Host)
    (comp : LaunchContext) (command : String) (dbusProxySocket : Option String) :
    ¬ (dlpBuildBwrapVector (fun _ => true) host comp command (some (boundOften count))
        dbusProxySocket).Safe
      (dlpBuildBwrapArgs host comp command (some (boundOften count)) dbusProxySocket) := by
  intro safe
  have length := length_dlpBuildBwrapArgs host comp command (some (boundOften count))
    dbusProxySocket
  rw [Option.elim_some, length_extraBinds_boundOften] at length
  rcases (buildVector_safe_iff _ _).mp safe with few | ⟨request, -, refused⟩
  · omega
  · cases refused

/-- With 357913942 binds the size of the vector overflows. -/
theorem argument_vector_not_safe :
    ¬ (dlpBuildBwrapVector (fun _ => true) ⟨fun _ => none, fun _ => false, fun _ => false⟩
        ⟨none, none⟩ "code" (some (boundOften 357913942)) none).Safe
      (dlpBuildBwrapArgs ⟨fun _ => none, fun _ => false, fun _ => false⟩ ⟨none, none⟩ "code"
        (some (boundOften 357913942)) none) :=
  not_safe_of_many (by decide) _ _ _ _

end CoderDesktop.Dlp
