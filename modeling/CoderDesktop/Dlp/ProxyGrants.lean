import CoderDesktop.Dlp.SandboxLauncher
import Mathlib.Data.List.ReduceOption

/-!
# The grants of the D-Bus proxy

The argument vector `dlp_start_dbus_proxy` executes `xdg-dbus-proxy` with. The names an
application may talk to go through sixteen buffers of 256 bytes each, so that names
beyond the sixteenth are dropped and long ones are cut short.
-/

namespace CoderDesktop.Dlp

/-! ## The argument vector -/

/-- What every proxy allows: portal settings and inhibition, accessibility and
notifications. -/
def proxyDefaults : List String :=
  ["--call=org.freedesktop.portal.Desktop=" ++
      "org.freedesktop.portal.Settings.*@/org/freedesktop/portal/desktop",
    "--call=org.freedesktop.portal.Desktop=" ++
      "org.freedesktop.portal.Inhibit.*@/org/freedesktop/portal/desktop",
    "--talk=org.a11y.Bus",
    "--see=org.freedesktop.Notifications",
    "--call=org.freedesktop.Notifications=" ++
      "org.freedesktop.Notifications.Notify@/org/freedesktop/Notifications",
    "--call=org.freedesktop.Notifications=" ++
      "org.freedesktop.Notifications.GetCapabilities@/org/freedesktop/Notifications",
    "--call=org.freedesktop.Notifications=" ++
      "org.freedesktop.Notifications.GetServerInformation@/org/freedesktop/Notifications"]

/-- The vector before the configured names. -/
def proxyBase (dbusAddr socketPath : String) (readEnd : Int) : List String :=
  ["xdg-dbus-proxy", dbusAddr, socketPath, "--filter", snprintf 32 ("--fd=" ++ toString readEnd)] ++
    proxyDefaults

/-- The text of one of the `talk_bufs`. -/
def talkBuf (name : String) : String :=
  snprintf 256 ("--talk=" ++ name)

/-- The loop over `dbus_talk_names` from index `i` on. -/
def addTalkNames (av : List String) (i : Nat) : List (Option String) → List String
  | [] => av
  | name :: rest =>
      if i < 16 ∧ av.length < 60 then
        match name with
        | some name => addTalkNames (av ++ [talkBuf name]) (i + 1) rest
        | none => addTalkNames av (i + 1) rest
      else av

/-- The vector the proxy is executed with; `none` when the overflow guard ends the child.
The names are those of the sandbox, `none` when there is no sandbox or its pointer is NULL. -/
def proxyArgv (dbusAddr socketPath : String) (readEnd : Int)
    (dbusTalkNames : Option (List (Option String))) : Option (List String) :=
  let av :=
    match dbusTalkNames with
    | some names => addTalkNames (proxyBase dbusAddr socketPath readEnd) 0 names
    | none => proxyBase dbusAddr socketPath readEnd
  if 127 ≤ av.length then none else some av

/-! ## What the vector holds -/

@[simp] theorem length_proxyBase (dbusAddr socketPath : String) (readEnd : Int) :
    (proxyBase dbusAddr socketPath readEnd).length = 12 := rfl

/-- The loop stops at index 16; the bound on the vector is never reached. -/
theorem addTalkNames_eq (names : List (Option String)) :
    ∀ (av : List String) (i : Nat), av.length ≤ 12 + i →
      addTalkNames av i names = av ++ (names.take (16 - i)).reduceOption.map talkBuf := by
  induction names with
  | nil => intro av i _; simp [addTalkNames, List.reduceOption_nil]
  | cons name rest inductionHypothesis =>
      intro av i short
      by_cases more : i < 16
      · have oneMore : 16 - i = 16 - (i + 1) + 1 := by omega
        rw [oneMore, List.take_succ_cons]
        cases name with
        | some name =>
            have room : (av ++ [talkBuf name]).length ≤ 12 + (i + 1) := by
              rw [List.length_append, List.length_singleton]
              omega
            rw [addTalkNames, if_pos ⟨more, by omega⟩, inductionHypothesis _ _ room,
              List.reduceOption_cons_of_some, List.map_cons, List.append_assoc,
              List.singleton_append]
        | none =>
            rw [addTalkNames, if_pos ⟨more, by omega⟩, inductionHypothesis _ _ (by omega),
              List.reduceOption_cons_of_none]
      · have stopped : addTalkNames av i (name :: rest) = av := by
          cases name <;> exact if_neg (by omega)
        rw [stopped, show 16 - i = 0 by omega, List.take_zero, List.reduceOption_nil,
          List.map_nil, List.append_nil]

/-- The proxy is always executed, with the names of the first sixteen entries. -/
theorem proxyArgv_eq (dbusAddr socketPath : String) (readEnd : Int)
    (dbusTalkNames : Option (List (Option String))) :
    proxyArgv dbusAddr socketPath readEnd dbusTalkNames =
      some (proxyBase dbusAddr socketPath readEnd ++
        ((dbusTalkNames.getD []).take 16).reduceOption.map talkBuf) := by
  have base : ∀ names, addTalkNames (proxyBase dbusAddr socketPath readEnd) 0 names =
      proxyBase dbusAddr socketPath readEnd ++ (names.take 16).reduceOption.map talkBuf :=
    fun names => addTalkNames_eq names _ 0 (by rw [length_proxyBase])
  have short (names : List (Option String)) : (names.take 16).reduceOption.length ≤ 16 :=
    Nat.le_trans (List.reduceOption_length_le _) (List.length_take_le _ _)
  cases dbusTalkNames with
  | none => simp [proxyArgv, List.reduceOption_nil]
  | some names =>
      have room := short names
      rw [proxyArgv, Option.getD_some]
      simp only [base]
      rw [if_neg]
      rw [List.length_append, length_proxyBase, List.length_map]
      omega

/-! ## The grants -/

/-- The services the proxy lets its clients talk to. Its options follow the address and
the socket. -/
def talkGrants (argv : List String) : List String :=
  (argv.drop 3).filter fun option => "--talk=".toList.isPrefixOf option.toList

/-- The buffer has room for 248 letters of the name. -/
theorem toList_talkBuf (name : String) :
    (talkBuf name).toList = "--talk=".toList ++ name.toList.take 248 := by
  simp [talkBuf, snprintf]

/-- Cutting a grant short never cuts off that it is one. -/
theorem talkBuf_isGrant (name : String) :
    "--talk=".toList.isPrefixOf (talkBuf name).toList = true := by
  rw [toList_talkBuf, List.isPrefixOf_iff_prefix]
  exact List.prefix_append _ _

/-- The file descriptor is no grant. -/
theorem fdArg_not_grant (readEnd : Int) :
    "--talk=".toList.isPrefixOf (snprintf 32 ("--fd=" ++ toString readEnd)).toList = false := by
  have text : (snprintf 32 ("--fd=" ++ toString readEnd)).toList =
      "--fd=".toList ++ (toString readEnd).toList.take 26 := by
    simp [snprintf]
  rw [text]
  rfl

/-- Of the options before the configured names, one is a grant. -/
theorem talkGrants_proxyBase (dbusAddr socketPath : String) (readEnd : Int) :
    talkGrants (proxyBase dbusAddr socketPath readEnd) = ["--talk=org.a11y.Bus"] := by
  have fdArg := fdArg_not_grant readEnd
  have options : (proxyBase dbusAddr socketPath readEnd).drop 3 =
      "--filter" :: snprintf 32 ("--fd=" ++ toString readEnd) :: proxyDefaults := rfl
  rw [talkGrants, options, List.filter_cons, List.filter_cons, fdArg]
  simp only [proxyDefaults, String.toList_append, List.filter_cons]
  rfl

/-- The grants are those of the names appended. -/
theorem talkGrants_append_talkBufs {argv : List String} (started : 3 ≤ argv.length)
    (names : List String) :
    talkGrants (argv ++ names.map talkBuf) = talkGrants argv ++ names.map talkBuf := by
  rw [talkGrants, List.drop_append_of_le_length started, List.filter_append, ← talkGrants]
  congr 1
  rw [List.filter_eq_self]
  intro option isBuf
  obtain ⟨name, _, rfl⟩ := List.mem_map.mp isBuf
  exact talkBuf_isGrant name

/-- The fixed grant, then those of the first sixteen entries as they fit their buffers. -/
theorem talkGrants_proxyArgv (dbusAddr socketPath : String) (readEnd : Int)
    (dbusTalkNames : Option (List (Option String))) :
    (proxyArgv dbusAddr socketPath readEnd dbusTalkNames).map talkGrants =
      some ("--talk=org.a11y.Bus" ::
        ((dbusTalkNames.getD []).take 16).reduceOption.map talkBuf) := by
  rw [proxyArgv_eq, Option.map_some, talkGrants_append_talkBufs (by rw [length_proxyBase]; decide),
    talkGrants_proxyBase, List.singleton_append]

/-- The name is complete exactly when it has 248 letters at most. -/
theorem talkBuf_eq_iff (name : String) : talkBuf name = "--talk=" ++ name ↔ name.length ≤ 248 := by
  rw [talkBuf, snprintf_eq_self_iff, String.toList_append, List.length_append,
    String.length_toList]
  change 7 + name.length ≤ 255 ↔ _
  omega

/-- The grants are the configured ones exactly when no entry from index 16 on holds a name
and every name is short enough for its buffer. -/
theorem talkGrants_configured_iff (dbusAddr socketPath : String) (readEnd : Int)
    (dbusTalkNames : Option (List (Option String))) :
    (proxyArgv dbusAddr socketPath readEnd dbusTalkNames).map talkGrants =
        some ("--talk=org.a11y.Bus" ::
          (dbusTalkNames.getD []).reduceOption.map ("--talk=" ++ ·)) ↔
      (∀ name ∈ (dbusTalkNames.getD []).drop 16, name = none) ∧
        ∀ name, some name ∈ dbusTalkNames.getD [] → name.length ≤ 248 := by
  rw [talkGrants_proxyArgv, Option.some_inj, List.cons_inj_right]
  generalize dbusTalkNames.getD [] = names
  have parts : names.reduceOption =
      (names.take 16).reduceOption ++ (names.drop 16).reduceOption := by
    rw [← List.reduceOption_append, List.take_append_drop]
  have dropped : (names.drop 16).reduceOption = [] ↔ ∀ name ∈ names.drop 16, name = none :=
    List.filterMap_eq_nil_iff
  rw [parts, ← dropped]
  constructor
  · intro granted
    have nothing : (names.drop 16).reduceOption = [] := by
      have counted := congrArg List.length granted
      rw [List.length_map, List.length_map, List.length_append] at counted
      exact List.eq_nil_of_length_eq_zero (by omega)
    refine ⟨nothing, fun name configured => ?_⟩
    rw [nothing, List.append_nil] at granted parts
    have among : name ∈ (names.take 16).reduceOption :=
      parts ▸ List.reduceOption_mem_iff.mpr configured
    exact (talkBuf_eq_iff name).mp (List.map_inj_left.mp granted name among)
  · rintro ⟨nothing, short⟩
    rw [nothing, List.append_nil, List.map_inj_left]
    intro name among
    have configured : some name ∈ names :=
      List.mem_of_mem_take (List.reduceOption_mem_iff.mp among)
    exact (talkBuf_eq_iff name).mpr (short name configured)

/-- The seventeenth of seventeen names is not granted, and of a name of 249 bytes the last
one is cut off. -/
theorem proxyArgv_drops_and_shortens :
    (proxyArgv "unix:path=/run/user/1000/bus" "/tmp/coder-dlp-dbus-x/bus" 5
        (some (List.replicate 17 (some "org.example.Mail")))).map talkGrants ≠
      some ("--talk=org.a11y.Bus" :: List.replicate 17 "--talk=org.example.Mail") ∧
    (proxyArgv "unix:path=/run/user/1000/bus" "/tmp/coder-dlp-dbus-x/bus" 5
        (some [some (String.ofList (List.replicate 249 'a'))])).map talkGrants ≠
      some ["--talk=org.a11y.Bus", "--talk=" ++ String.ofList (List.replicate 249 'a')] := by
  constructor
  · intro granted
    rw [talkGrants_proxyArgv] at granted
    have counted := congrArg List.length (Option.some_inj.mp granted)
    rw [List.length_cons, List.length_map, List.length_cons, List.length_replicate] at counted
    exact absurd counted (by decide)
  · intro granted
    rw [talkGrants_proxyArgv, Option.some_inj, List.cons_inj_right, Option.getD_some,
      List.take_succ_cons, List.take_nil, List.reduceOption_cons_of_some, List.reduceOption_nil,
      List.map_cons, List.map_nil, List.cons.injEq, talkBuf_eq_iff, ← String.length_toList,
      String.toList_ofList, List.length_replicate] at granted
    have whole := granted.1
    exact absurd whole (by decide)

end CoderDesktop.Dlp
