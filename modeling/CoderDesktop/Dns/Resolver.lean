import CoderDesktop.Dns.DirectFile

/-!
# What the resolver makes of the file

The resolver reads `/etc/resolv.conf` line by line: name servers count in file order, of
the search lists the last one wins. The block stands before the content that was there, so
its name servers come first, and its search list loses to any other in the file.
-/

namespace CoderDesktop.Dns

open Collections

/-! ## Reading the file -/

/-- What separates the words of a line: a space or a tab. -/
def isBlank (byte : UInt8) : Bool := byte = 32 || byte = 9

/-- The lines of a file. -/
def lines (content : Text) : List Text := content.splitOn newline

/-- The words after the keyword; none if the line starts with something else. -/
def arguments (keyword line : Text) : List Text :=
  match line.splitOnP isBlank with
  | first :: rest => if first = keyword then rest.filter (· ≠ []) else []
  | [] => []

/-- The address of a `nameserver` line. -/
def nameserverOf (line : Text) : Option Text := (arguments (text "nameserver") line).head?

/-- The search list a line sets; a `domain` line sets one of a single entry. Lines without
an entry are passed over. -/
def searchOf (line : Text) : Option (List Text) :=
  if arguments (text "search") line ≠ [] then some (arguments (text "search") line)
  else (arguments (text "domain") line).head?.map fun domain => [domain]

/-- The name servers, in the order in which they are asked. -/
def nameserversOf (content : Text) : List Text := (lines content).filterMap nameserverOf

/-- The search list: the last one wins. -/
def searchListOf (content : Text) : Option (List Text) :=
  ((lines content).filterMap searchOf).getLast?

/-- A single word. -/
structure IsWord (word : Text) : Prop where
  nonempty : word ≠ []
  blank : ∀ byte ∈ word, isBlank byte = false
  newline : newline ∉ word

/-- The name servers come first and the search list is the given one. -/
structure TakesEffect (nameservers searchDomains : List Text) (content : Text) : Prop where
  nameservers : nameservers <+: nameserversOf content
  searchList : searchListOf content = some searchDomains

/-! ## Single lines -/

/-- The space, as a byte. -/
theorem space_eq : text " " = [32] := by decide

/-- The first word of a line ends at the first blank. -/
theorem arguments_append {first : Text} (solid : ∀ byte ∈ first, isBlank byte = false)
    (keyword rest : Text) :
    arguments keyword (first ++ text " " ++ rest) =
      if first = keyword then (rest.splitOnP isBlank).filter (· ≠ []) else [] := by
  have split := List.splitOnP_append_cons_of_forall_mem solid 32 rfl rest
  rw [space_eq, List.append_assoc, List.singleton_append]
  simp only [arguments, split]

/-- One word needs no space. -/
theorem joined_singleton (word : Text) : joined [word] = word := by simp [joined]

/-- Words are joined with spaces. -/
theorem joined_cons (word next : Text) (more : List Text) :
    joined (word :: next :: more) = word ++ 32 :: joined (next :: more) := by
  simp [joined, space_eq]

/-- Joined words are split into the same words. -/
theorem splitOnP_joined {words : List Text} (nonempty : words ≠ [])
    (areWords : ∀ word ∈ words, IsWord word) : (joined words).splitOnP isBlank = words := by
  induction words with
  | nil => exact absurd rfl nonempty
  | cons word rest inductionHypothesis =>
      have first := (areWords word List.mem_cons_self).blank
      cases rest with
      | nil => rw [joined_singleton, List.splitOnP_eq_singleton first]
      | cons next more =>
          have later := inductionHypothesis (List.cons_ne_nil _ _)
            fun other member => areWords other (List.mem_cons_of_mem _ member)
          rw [joined_cons, List.splitOnP_append_cons_of_forall_mem first 32 rfl, later]

/-- Joined words stay on one line. -/
theorem newline_not_mem_joined {words : List Text} (areWords : ∀ word ∈ words, IsWord word) :
    newline ∉ joined words := by
  induction words with
  | nil => exact List.not_mem_nil
  | cons word rest inductionHypothesis =>
      have first := (areWords word List.mem_cons_self).newline
      have later := inductionHypothesis
        fun other member => areWords other (List.mem_cons_of_mem _ member)
      cases rest with
      | nil => rwa [joined_singleton]
      | cons next more =>
          rw [joined_cons, List.mem_append, List.mem_cons]
          rintro (inFirst | isSpace | inLater)
          · exact first inFirst
          · exact absurd isSpace (by decide)
          · exact later inLater

/-- A line of a keyword and words gives the words to that keyword. -/
theorem arguments_line {first : Text} (solid : ∀ byte ∈ first, isBlank byte = false)
    {words : List Text} (nonempty : words ≠ []) (areWords : ∀ word ∈ words, IsWord word)
    (keyword : Text) :
    arguments keyword (first ++ text " " ++ joined words) =
      if first = keyword then words else [] := by
  have kept : words.filter (· ≠ []) = words :=
    List.filter_eq_self.mpr fun word member => decide_eq_true (areWords word member).nonempty
  rw [arguments_append solid, splitOnP_joined nonempty areWords, kept]

/-- The markers say nothing to the resolver. -/
theorem settings_markers :
    nameserverOf managedBlockHeader = none ∧ searchOf managedBlockHeader = none ∧
      nameserverOf managedBlockFooter = none ∧ searchOf managedBlockFooter = none := by
  decide

/-- What a `nameserver` line says. -/
theorem settings_nameserver {server : Text} (isServer : IsWord server) :
    nameserverOf (text "nameserver " ++ server) = some server ∧
      searchOf (text "nameserver " ++ server) = none := by
  have split : text "nameserver " ++ server =
      text "nameserver" ++ text " " ++ joined [server] := by
    rw [joined_singleton]
    rfl
  have given := @arguments_line (text "nameserver") (by decide +kernel) [server]
    (List.cons_ne_nil _ _)
    (by simpa using isServer)
  rw [split]
  constructor
  · rw [nameserverOf, given, if_pos rfl]
    rfl
  · have search := given (text "search")
    have domain := given (text "domain")
    rw [if_neg (by decide)] at search domain
    simp only [searchOf, search, domain]
    rfl

/-- What a `search` line says. -/
theorem settings_search {searchDomains : List Text} (nonempty : searchDomains ≠ [])
    (domainWords : ∀ domain ∈ searchDomains, IsWord domain) :
    nameserverOf (text "search " ++ joined searchDomains) = none ∧
      searchOf (text "search " ++ joined searchDomains) = some searchDomains := by
  have split : text "search " ++ joined searchDomains =
      text "search" ++ text " " ++ joined searchDomains := rfl
  have given := @arguments_line (text "search") (by decide +kernel) searchDomains nonempty
    domainWords
  rw [split]
  constructor
  · rw [nameserverOf, given, if_neg (by decide)]
    rfl
  · rw [searchOf, given, if_pos rfl, if_pos nonempty]

/-! ## The lines of the block -/

section Block

variable {nameservers searchDomains : List Text}

/-- A line in front is the first line. -/
theorem lines_append {line : Text} (single : newline ∉ line) (rest : Text) :
    lines (line ++ newline :: rest) = line :: lines rest :=
  List.splitOn_append_cons_self_of_not_mem single rest

/-- The lines before the footer. -/
theorem lines_directives (serverWords : ∀ server ∈ nameservers, IsWord server)
    (domainWords : ∀ domain ∈ searchDomains, IsWord domain) (nonempty : searchDomains ≠ [])
    (rest : Text) :
    lines (directives nameservers searchDomains ++ rest) =
      nameservers.map (text "nameserver " ++ ·) ++
        (text "search " ++ joined searchDomains) :: lines rest := by
  induction nameservers with
  | nil =>
      have single : newline ∉ text "search " ++ joined searchDomains := by
        rw [List.mem_append]
        rintro (inKeyword | inDomains)
        · exact absurd inKeyword (by decide)
        · exact newline_not_mem_joined domainWords inDomains
      have split : directives [] searchDomains ++ rest =
          text "search " ++ joined searchDomains ++ newline :: rest := by
        simp [directives, nonempty]
      rw [split, lines_append single]
      rfl
  | cons server more inductionHypothesis =>
      have single : newline ∉ text "nameserver " ++ server := by
        rw [List.mem_append]
        rintro (inKeyword | inServer)
        · exact absurd inKeyword (by decide)
        · exact (serverWords server List.mem_cons_self).newline inServer
      have split : directives (server :: more) searchDomains ++ rest =
          text "nameserver " ++ server ++ newline ::
            (directives more searchDomains ++ rest) := by
        simp [directives]
      rw [split, lines_append single, inductionHypothesis
        fun other member => serverWords other (List.mem_cons_of_mem _ member)]
      rfl

/-- The lines of a block, and those after it. -/
theorem lines_managedBlock (serverWords : ∀ server ∈ nameservers, IsWord server)
    (domainWords : ∀ domain ∈ searchDomains, IsWord domain) (nonempty : searchDomains ≠ [])
    (existing : Text) :
    lines (managedBlock nameservers searchDomains ++ existing) =
      managedBlockHeader :: (nameservers.map (text "nameserver " ++ ·) ++
        (text "search " ++ joined searchDomains) :: managedBlockFooter :: lines existing) := by
  have split : managedBlock nameservers searchDomains ++ existing =
      managedBlockHeader ++ newline :: (directives nameservers searchDomains ++
        (managedBlockFooter ++ newline :: existing)) := by
    simp [managedBlock]
  rw [split, lines_append (by decide), lines_directives serverWords domainWords nonempty,
    lines_append (by decide)]

/-- The name servers of the block come before those of the file. -/
theorem nameserversOf_managedBlock (serverWords : ∀ server ∈ nameservers, IsWord server)
    (domainWords : ∀ domain ∈ searchDomains, IsWord domain) (nonempty : searchDomains ≠ [])
    (existing : Text) :
    nameserversOf (managedBlock nameservers searchDomains ++ existing) =
      nameservers ++ nameserversOf existing := by
  have servers : (nameservers.map (text "nameserver " ++ ·)).filterMap nameserverOf =
      nameservers := by
    rw [List.filterMap_map]
    refine (List.filterMap_congr fun server member => ?_).trans List.filterMap_some
    exact (settings_nameserver (serverWords server member)).1
  have search := (settings_search nonempty domainWords).1
  obtain ⟨header, -, footer, -⟩ := settings_markers
  rw [nameserversOf, lines_managedBlock serverWords domainWords nonempty,
    List.filterMap_cons_none header, List.filterMap_append, servers,
    List.filterMap_cons_none search, List.filterMap_cons_none footer]
  rfl

/-- The search list of the block counts if the file has none. -/
theorem searchListOf_managedBlock (serverWords : ∀ server ∈ nameservers, IsWord server)
    (domainWords : ∀ domain ∈ searchDomains, IsWord domain) (nonempty : searchDomains ≠ [])
    (existing : Text) :
    searchListOf (managedBlock nameservers searchDomains ++ existing) =
      (searchListOf existing).or (some searchDomains) := by
  have servers : (nameservers.map (text "nameserver " ++ ·)).filterMap searchOf = [] := by
    rw [List.filterMap_map, List.filterMap_eq_nil_iff]
    intro server member
    exact (settings_nameserver (serverWords server member)).2
  have search := (settings_search nonempty domainWords).2
  obtain ⟨-, header, -, footer⟩ := settings_markers
  rw [searchListOf, lines_managedBlock serverWords domainWords nonempty,
    List.filterMap_cons_none header, List.filterMap_append, servers, List.nil_append,
    List.filterMap_cons_some search, List.filterMap_cons_none footer, List.getLast?_cons]
  cases last : ((lines existing).filterMap searchOf).getLast? with
  | none => simp [searchListOf, last]
  | some list => simp [searchListOf, last]

/-- Before a file the block takes effect exactly if the file sets no other search list. -/
theorem takesEffect_managedBlock_iff (serverWords : ∀ server ∈ nameservers, IsWord server)
    (domainWords : ∀ domain ∈ searchDomains, IsWord domain) (nonempty : searchDomains ≠ [])
    (existing : Text) :
    TakesEffect nameservers searchDomains (managedBlock nameservers searchDomains ++ existing) ↔
      ∀ list, searchListOf existing = some list → list = searchDomains := by
  have servers : nameservers <+:
      nameserversOf (managedBlock nameservers searchDomains ++ existing) := by
    rw [nameserversOf_managedBlock serverWords domainWords nonempty]
    exact List.prefix_append _ _
  have search := searchListOf_managedBlock serverWords domainWords nonempty existing
  constructor
  · intro takesEffect list set
    have last := takesEffect.searchList
    rw [search, set, Option.some_or] at last
    exact Option.some.inj last
  · intro noOther
    refine ⟨servers, ?_⟩
    rw [search]
    cases set : searchListOf existing with
    | none => rfl
    | some list => rw [Option.some_or, noOther list set]

end Block

/-! ## After a configuration -/

section Configuration

variable {m : Manager} {nameservers searchDomains : List Text} {host : Host}

/-- A write without error puts the block in front. -/
theorem writeManagedBlock_of_succeeded {existing : Text} {write : Option WriteFault}
    (succeeded : (m.writeManagedBlock nameservers searchDomains existing write host).error = none) :
    (m.writeManagedBlock nameservers searchDomains existing write host).host.resolvConf =
      managedBlock nameservers searchDomains ++ existing := by
  obtain rfl := Option.map_eq_none_iff.mp succeeded
  exact resolvConf_setFile _ _

/-- A configuration that succeeds has put the block before the content. -/
theorem configureDirectFile_of_succeeded {outcome : ConfigureOutcome}
    (succeeded : (m.configureDirectFile nameservers searchDomains outcome host).error = none) :
    (m.configureDirectFile nameservers searchDomains outcome host).host.resolvConf =
      managedBlock nameservers searchDomains ++ host.resolvConf := by
  rw [configureDirectFile_eq] at succeeded ⊢
  cases read : outcome.read with
  | some error =>
      rw [read] at succeeded
      cases succeeded
  | none =>
      simp only [read, Manager.backUp] at succeeded ⊢
      by_cases content : host.resolvConf ≠ []
      · simp only [if_pos content] at succeeded ⊢
        cases backup : outcome.backup with
        | some fault =>
            rw [backup] at succeeded
            cases succeeded
        | none =>
            rw [backup] at succeeded
            exact writeManagedBlock_of_succeeded succeeded
      · rw [if_neg content] at succeeded ⊢
        exact writeManagedBlock_of_succeeded succeeded

end Configuration

/-- A configuration that succeeds takes effect exactly if the content that was there does not
set another search list. -/
theorem takesEffect_iff {m : Manager} {nameservers searchDomains : List Text}
    {outcome : ConfigureOutcome} {host : Host}
    (serverWords : ∀ server ∈ nameservers, IsWord server)
    (domainWords : ∀ domain ∈ searchDomains, IsWord domain) (nonempty : searchDomains ≠ [])
    (succeeded : (m.configureDirectFile nameservers searchDomains outcome host).error = none) :
    TakesEffect nameservers searchDomains
        (m.configureDirectFile nameservers searchDomains outcome host).host.resolvConf ↔
      ∀ list, searchListOf host.resolvConf = some list → list = searchDomains := by
  rw [configureDirectFile_of_succeeded succeeded]
  exact takesEffect_managedBlock_iff serverWords domainWords nonempty _

/-- A host with nothing but this file. -/
def hostWith (resolvConf : Text) : Host where
  files path := if path = resolvConfPath then some resolvConf else none
  links _ := none
  records _ := none

/-- The example's server is a word. -/
theorem isWord_server : ∀ server ∈ [text "fd60::1"], IsWord server :=
  List.forall_mem_singleton.mpr ⟨by decide, by decide +kernel, by decide⟩

/-- The example's domain is a word. -/
theorem isWord_domain : ∀ domain ∈ [text "coder"], IsWord domain :=
  List.forall_mem_singleton.mpr ⟨by decide, by decide +kernel, by decide⟩

/-- A file without a search list. -/
theorem takesEffect_options :
    TakesEffect [text "fd60::1"] [text "coder"]
      ((directManager "coder0").configureDirectFile [text "fd60::1"] [text "coder"]
        (.succeeds none) (hostWith (text "options rotate\n"))).host.resolvConf := by
  have unset : searchListOf (hostWith (text "options rotate\n")).resolvConf = none := by
    decide +kernel
  refine (takesEffect_iff isWord_server isWord_domain (by decide) (by decide)).mpr ?_
  rw [unset]
  exact fun list set => nomatch set

/-- The search list of the file is the last one. -/
theorem not_takesEffect :
    ¬ (∀ (m : Manager) nameservers searchDomains outcome host,
      (∀ server ∈ nameservers, IsWord server) → (∀ domain ∈ searchDomains, IsWord domain) →
        nameservers ≠ [] → searchDomains ≠ [] →
          (m.configureDirectFile nameservers searchDomains outcome host).error = none →
            TakesEffect nameservers searchDomains
              (m.configureDirectFile nameservers searchDomains outcome host).host.resolvConf) := by
  intro always
  have takesEffect := always (directManager "coder0") _ _ (.succeeds none)
    (hostWith (text "search example.org\n")) isWord_server isWord_domain (by decide) (by decide)
    (by decide)
  have last := takesEffect.searchList
  rw [configureDirectFile_of_succeeded (by decide),
    searchListOf_managedBlock isWord_server isWord_domain (by decide)] at last
  revert last
  decide +kernel

end CoderDesktop.Dns
