import LatestTag.Proofs.Routing
import Mathlib.Data.List.Induction
import Mathlib.Tactic.ByContra

/-!
# The first client that claims a host is asked

A client claims the hosts of its entries. This file says what an entry stands for without the rules
that it is read into, and which client a dispatcher takes:

> `covers_iff_admits`: an entry stands for the host that it names, or with `*.` in front of a domain
> for the proper subdomains of that domain, which are the hosts with something, a dot and the
> domain.

> `routed_by_first_claim`: a reference goes to the earliest client that claims its host, and to the
> default client if none does. So one more client takes over the references that it claims and none
> before it does, and no others; and a wildcard leaves out its own domain.

The test of a wildcard compares ends of texts and lengths. An end of the right length with a dot in
front of it is a proper subdomain, whatever the domain is, the empty text included
(`admits_subdomains_iff`).
-/

namespace LatestTag

open Reference (registryHost)
open Text (lowerAscii)

/-! ## Entries -/

namespace HostRule

variable {domain entry front host : String}

/-- The entry stands for the host, both in lower case: it is the host, or it is `*.` and a domain,
and the host has something, a dot and this domain. -/
def Covers (entry host : String) : Prop :=
  (¬ "*.".toList <+: entry.toList ∧ host = entry) ∨
    ∃ domain front, entry = "*." ++ domain ∧ front ≠ "" ∧ host = front ++ "." ++ domain

theorem admits_subdomains_iff :
    (subdomains domain).admits host = true ↔
      ∃ front, front ≠ "" ∧ host = front ++ "." ++ domain := by
  unfold admits
  rw [Bool.and_eq_true, List.isSuffixOf_iff_suffix, decide_eq_true_iff, ← String.length_toList,
    ← String.length_toList]
  constructor
  · intro h
    obtain ⟨⟨front, htext⟩, hlength⟩ := h
    refine ⟨.ofList front, ?_, ?_⟩
    · intro hempty
      -- only the dot and the domain would be left
      rw [← String.toList_inj, String.toList_ofList] at hempty
      rw [← htext, hempty] at hlength
      exact absurd hlength (by simp)
    · apply String.toList_inj.1
      rw [← htext]
      simp
  · intro h
    obtain ⟨front, hne, rfl⟩ := h
    have htext : (front ++ "." ++ domain).toList = front.toList ++ '.' :: domain.toList := by simp
    have hpos : 0 < front.toList.length :=
      List.length_pos_iff.2 fun hnil => hne (String.toList_inj.1 hnil)
    rw [htext]
    refine ⟨List.suffix_append _ _, ?_⟩
    rw [List.length_append, List.length_cons]
    omega

theorem not_starts_of_ofText (h : ∀ domain, entry.toList ≠ '*' :: '.' :: domain) :
    ¬ "*.".toList <+: entry.toList := by
  intro hstarts
  obtain ⟨domain, htext⟩ := hstarts
  exact h domain htext.symm

/-- An entry, as it is given, admits the hosts that it stands for in lower case. -/
theorem covers_iff_admits :
    Covers (lowerAscii entry) host ↔ (ofText entry).admits host = true := by
  unfold ofText
  split
  · next domain htext =>
    have hentry : lowerAscii entry = "*." ++ .ofList domain := by
      apply String.toList_inj.1
      rw [htext]
      simp
    rw [admits_subdomains_iff]
    constructor
    · intro h
      rcases h with ⟨hplain, _⟩ | ⟨domain', front, hentry', hfront, hhost⟩
      · rw [hentry] at hplain
        exact absurd ⟨domain, by simp⟩ hplain
      · rw [hentry, String.append_right_inj] at hentry'
        rw [← hentry'] at hhost
        exact ⟨front, hfront, hhost⟩
    · intro h
      obtain ⟨front, hfront, hhost⟩ := h
      exact Or.inr ⟨.ofList domain, front, hentry, hfront, hhost⟩
  · next hplain =>
    have hstarts : ¬ "*.".toList <+: (lowerAscii entry).toList := not_starts_of_ofText hplain
    rw [String.ofList_toList]
    show _ ↔ (host == lowerAscii entry) = true
    rw [beq_iff_eq]
    constructor
    · intro h
      rcases h with ⟨_, hhost⟩ | ⟨domain, _, hentry, _, _⟩
      · exact hhost
      · rw [hentry] at hstarts
        exact absurd ⟨domain.toList, by simp⟩ hstarts
    · intro hhost
      exact Or.inl ⟨hstarts, hhost⟩

/-- A wildcard does not cover what merely ends in its domain. -/
theorem not_covers_wildcard (hfront : ∀ before, front ≠ before ++ ".") :
    ¬ Covers ("*." ++ domain) (front ++ domain) := by
  intro h
  rcases h with ⟨hplain, _⟩ | ⟨domain', before, hentry, _, hhost⟩
  · exact hplain ⟨domain.toList, by simp⟩
  · rw [String.append_right_inj] at hentry
    rw [← hentry, String.append_left_inj] at hhost
    exact hfront before hhost

end HostRule

namespace HostSet

open HostRule (Covers)

/-- Some entry, taken in lower case, stands for the host. -/
def Claims (entries : List String) (host : String) : Prop :=
  ∃ entry ∈ entries, Covers (lowerAscii entry) host

theorem contains_ofList_iff {entries : List String} {ref : String} :
    (ofList entries).contains ref = true ↔ Claims entries (lowerAscii (registryHost ref)) := by
  unfold contains ofList Claims
  rw [List.any_map, List.any_eq_true]
  exact exists_congr fun entry => and_congr_right fun _ => HostRule.covers_iff_admits.symm

theorem contains_wildcard {domain front ref : String} (hfront : ∀ before, front ≠ before ++ ".")
    (hhost : lowerAscii (registryHost ref) = front ++ lowerAscii domain) :
    (ofList ["*." ++ domain]).contains ref = false := by
  have hlower : lowerAscii ("*." ++ domain) = "*." ++ lowerAscii domain := by
    apply String.toList_inj.1
    simp [lowerAscii]
  by_contra hcontains
  rw [Bool.not_eq_false, contains_ofList_iff] at hcontains
  obtain ⟨entry, hentry, hcovers⟩ := hcontains
  rw [List.mem_singleton.1 hentry, hlower, hhost] at hcovers
  exact HostRule.not_covers_wildcard hfront hcovers

end HostSet

/-! ## Clients -/

namespace Dispatcher

open HostSet (Claims contains_ofList_iff)

/-- The dispatcher with one more client, by its name and its entries. -/
def registerEntries (dispatcher : Dispatcher) (client : String × List String) : Dispatcher :=
  dispatcher.register (.ofHosts client.1 (.ofList client.2))

/-- The client at the position claims the host, and none of those before it does. -/
structure IsFirstClaim (clients : List (String × List String)) (host : String) (i : Nat)
    (client : String × List String) : Prop where
  here : clients[i]? = some client
  claims : Claims client.2 host
  none_before : ∀ earlier ∈ clients.take i, ¬ Claims earlier.2 host

variable (fallback : Client) (clients : List (String × List String)) (ref : String)

theorem registerEntries_ofEntries (client : String × List String) :
    registerEntries (ofEntries fallback clients) client =
      ofEntries fallback (clients ++ [client]) := by
  unfold ofEntries
  rw [List.map_append]
  rfl

/-- Registering clients one after another gives the dispatcher among them. -/
theorem foldl_registerEntries :
    clients.foldl registerEntries (ofFallback fallback) = ofEntries fallback clients := by
  induction clients using List.reverseRecOn with
  | nil => rfl
  | append_singleton clients client ih =>
    rw [List.foldl_append, ih]
    exact registerEntries_ofEntries fallback clients client

theorem position?_ofEntries :
    (ofEntries fallback clients).position? ref =
      clients.findIdx? fun client => (HostSet.ofList client.2).contains ref := List.findIdx?_map

theorem select_ofEntries :
    (ofEntries fallback clients).select ref =
      ((((ofEntries fallback clients).position? ref).bind (clients[·]?)).map fun client =>
        Client.ofHosts client.1 (.ofList client.2)).getD fallback := by
  rw [position?_ofEntries, ← List.find?_eq_bind_findIdx?_getElem?]
  exact congrArg (Option.getD · fallback) List.find?_map

theorem position?_eq_some_iff (i : Nat) :
    (ofEntries fallback clients).position? ref = some i ↔
      ∃ client, IsFirstClaim clients (lowerAscii (registryHost ref)) i client := by
  rw [position?_ofEntries, List.findIdx?_eq_some_iff_getElem]
  constructor
  · intro h
    obtain ⟨hi, hclaims, hbefore⟩ := h
    refine ⟨clients[i], List.getElem?_eq_getElem hi, contains_ofList_iff.1 hclaims, ?_⟩
    intro earlier hearlier hclaim
    obtain ⟨j, hj, rfl⟩ := List.mem_take_iff_getElem.1 hearlier
    exact hbefore j (by omega) (contains_ofList_iff.2 hclaim)
  · intro h
    obtain ⟨client, hhere, hclaims, hbefore⟩ := h
    obtain ⟨hi, rfl⟩ := List.getElem?_eq_some_iff.1 hhere
    refine ⟨hi, contains_ofList_iff.2 hclaims, ?_⟩
    intro j hj hcontains
    have hmem : clients[j] ∈ clients.take i :=
      List.mem_take_iff_getElem.2 ⟨j, by omega, rfl⟩
    exact hbefore _ hmem (contains_ofList_iff.1 hcontains)

theorem position?_eq_none_iff :
    (ofEntries fallback clients).position? ref = none ↔
      ∀ client ∈ clients, ¬ Claims client.2 (lowerAscii (registryHost ref)) := by
  rw [position?_ofEntries, List.findIdx?_eq_none_iff]
  refine forall₂_congr fun client _ => ?_
  rw [← contains_ofList_iff, Bool.not_eq_true]

/-- The client that is taken by its position, or the default client. -/
theorem select_eq {fallback clients ref} {i : Nat} {client : String × List String}
    (h : IsFirstClaim clients (lowerAscii (registryHost ref)) i client) :
    (ofEntries fallback clients).select ref = .ofHosts client.1 (.ofList client.2) := by
  have hposition := (position?_eq_some_iff fallback clients ref i).2 ⟨client, h⟩
  rw [select_ofEntries, hposition, Option.bind_some, h.here]
  rfl

theorem select_eq_fallback {fallback clients ref}
    (h : ∀ client ∈ clients, ¬ Claims client.2 (lowerAscii (registryHost ref))) :
    (ofEntries fallback clients).select ref = fallback := by
  rw [select_ofEntries, (position?_eq_none_iff fallback clients ref).2 h]
  rfl

/-- A client that is not the default one is only taken for what it claims. -/
theorem select_eq_fallback_iff {fallback clients ref}
    (hnew : fallback ∉ (ofEntries fallback clients).clients) :
    (ofEntries fallback clients).select ref = fallback ↔
      ∀ client ∈ clients, ¬ Claims client.2 (lowerAscii (registryHost ref)) := by
  refine ⟨?_, select_eq_fallback⟩
  intro hselect
  rw [← position?_eq_none_iff fallback]
  cases hposition : (ofEntries fallback clients).position? ref with
  | none => rfl
  | some i =>
    obtain ⟨client, hfirst⟩ := (position?_eq_some_iff fallback clients ref i).1 hposition
    have hmem : client ∈ clients := List.mem_of_getElem? hfirst.here
    rw [select_eq hfirst] at hselect
    exact absurd (hselect ▸ List.mem_map_of_mem hmem) hnew

/-! ## One more client -/

section More

variable {fallback : Client} {clients : List (String × List String)} {ref host : String}
  {i : Nat} {client : String × List String}

/-- Who is asked first stays so when others are registered later. -/
theorem IsFirstClaim.append (h : IsFirstClaim clients host i client)
    (more : List (String × List String)) : IsFirstClaim (clients ++ more) host i client := by
  obtain ⟨hhere, hclaims, hbefore⟩ := h
  obtain ⟨hi, _⟩ := List.getElem?_eq_some_iff.1 hhere
  refine ⟨?_, hclaims, ?_⟩
  · rw [List.getElem?_append_left hi]
    exact hhere
  · rw [List.take_append_of_le_length (by omega)]
    exact hbefore

/-- A new client is the first one for what nobody claimed. -/
theorem isFirstClaim_new (hnone : ∀ earlier ∈ clients, ¬ Claims earlier.2 host)
    (hclaims : Claims client.2 host) :
    IsFirstClaim (clients ++ [client]) host clients.length client := by
  refine ⟨?_, hclaims, ?_⟩
  · rw [List.getElem?_append_right (Nat.le_refl _), Nat.sub_self]
    rfl
  · rw [List.take_left]
    exact hnone

theorem exists_isFirstClaim (fallback : Client)
    (h : ¬ ∀ earlier ∈ clients, ¬ Claims earlier.2 (lowerAscii (registryHost ref))) :
    ∃ i earlier, IsFirstClaim clients (lowerAscii (registryHost ref)) i earlier := by
  rw [← position?_eq_none_iff fallback] at h
  obtain ⟨i, hi⟩ := Option.ne_none_iff_exists'.1 h
  exact ⟨i, (position?_eq_some_iff fallback clients ref i).1 hi⟩

/-- What the new client claims before all others goes to it. -/
theorem routing_registerEntries (hnone : ∀ earlier ∈ clients,
      ¬ Claims earlier.2 (lowerAscii (registryHost ref)))
    (hclaims : Claims client.2 (lowerAscii (registryHost ref))) :
    (registerEntries (ofEntries fallback clients) client).position? ref = some clients.length ∧
    (registerEntries (ofEntries fallback clients) client).select ref =
      .ofHosts client.1 (.ofList client.2) := by
  have hfirst := isFirstClaim_new hnone hclaims
  rw [registerEntries_ofEntries]
  exact ⟨(position?_eq_some_iff fallback _ ref _).2 ⟨client, hfirst⟩, select_eq hfirst⟩

/-- Everything else goes where it went before. -/
theorem routing_registerEntries_of_not (h : ¬ ((∀ earlier ∈ clients,
      ¬ Claims earlier.2 (lowerAscii (registryHost ref))) ∧
      Claims client.2 (lowerAscii (registryHost ref)))) :
    (registerEntries (ofEntries fallback clients) client).position? ref =
      (ofEntries fallback clients).position? ref ∧
    (registerEntries (ofEntries fallback clients) client).select ref =
      (ofEntries fallback clients).select ref := by
  rw [registerEntries_ofEntries]
  by_cases hnone : ∀ earlier ∈ clients, ¬ Claims earlier.2 (lowerAscii (registryHost ref))
  · -- nobody claims the host, the new client included
    have hmore : ∀ earlier ∈ clients ++ [client],
        ¬ Claims earlier.2 (lowerAscii (registryHost ref)) := by
      intro earlier hearlier
      rcases List.mem_append.1 hearlier with hold | hnew
      · exact hnone earlier hold
      · rw [List.mem_singleton.1 hnew]
        exact fun hclaims => h ⟨hnone, hclaims⟩
    rw [select_eq_fallback hnone, select_eq_fallback hmore,
      (position?_eq_none_iff fallback clients ref).2 hnone,
      (position?_eq_none_iff fallback _ ref).2 hmore]
    exact ⟨rfl, rfl⟩
  · obtain ⟨i, earlier, hfirst⟩ := exists_isFirstClaim fallback hnone
    have hmore := hfirst.append [client]
    rw [select_eq hfirst, select_eq hmore,
      (position?_eq_some_iff fallback clients ref i).2 ⟨earlier, hfirst⟩,
      (position?_eq_some_iff fallback _ ref i).2 ⟨earlier, hmore⟩]
    exact ⟨rfl, rfl⟩

end More

/-- **The first claim decides.** A reference goes to the earliest client with an entry for its host,
and to the default client if there is none. One more client takes over the references that it claims
and nobody claimed before, and no others. A wildcard claims neither its own domain nor a host that
ends in the same letters without a dot in front of them. -/
theorem routed_by_first_claim (fallback : Client) (clients : List (String × List String))
    (ref : String) :
    let dispatcher := clients.foldl registerEntries (ofFallback fallback)
    let host := lowerAscii (registryHost ref)
    let unclaimed := ∀ client ∈ clients, ¬ Claims client.2 host
    (∀ i, dispatcher.position? ref = some i ↔ ∃ client, IsFirstClaim clients host i client) ∧
    (∀ i client, IsFirstClaim clients host i client →
      dispatcher.select ref = .ofHosts client.1 (.ofList client.2)) ∧
    (dispatcher.position? ref = none ↔ unclaimed) ∧
    (unclaimed → dispatcher.select ref = fallback) ∧
    (fallback ∉ dispatcher.clients → (dispatcher.select ref = fallback ↔ unclaimed)) ∧
    (∀ client, let more := dispatcher.registerEntries client
      (more.position? ref ≠ dispatcher.position? ref ↔ unclaimed ∧ Claims client.2 host) ∧
      (unclaimed ∧ Claims client.2 host →
        more.select ref = .ofHosts client.1 (.ofList client.2)) ∧
      (¬ (unclaimed ∧ Claims client.2 host) → more.select ref = dispatcher.select ref)) ∧
    ∀ domain front, (∀ before, front ≠ before ++ ".") → host = front ++ lowerAscii domain →
      (HostSet.ofList ["*." ++ domain]).contains ref = false := by
  rw [foldl_registerEntries]
  refine ⟨position?_eq_some_iff fallback clients ref, fun i client => select_eq,
    position?_eq_none_iff fallback clients ref, select_eq_fallback, select_eq_fallback_iff, ?_,
    fun domain front => HostSet.contains_wildcard⟩
  intro client
  refine ⟨⟨?_, ?_⟩, ?_, ?_⟩
  · intro hchanged
    by_contra hsame
    exact hchanged (routing_registerEntries_of_not hsame).1
  · intro h
    rw [(routing_registerEntries h.1 h.2).1,
      (position?_eq_none_iff fallback clients ref).2 h.1]
    exact Option.some_ne_none _
  · intro h
    exact (routing_registerEntries h.1 h.2).2
  · intro hsame
    exact (routing_registerEntries_of_not hsame).2

/-- A wildcard in capital letters behind a client for other hosts: it takes a subdomain of its
domain, leaves the domain itself to a client that is registered later, and does not take a name that
ends in the same letters. -/
theorem routed_by_first_claim_of_wildcard :
    let fallback := Client.ofHosts "hub" (.ofList ["docker.io"])
    let clients := [("quay", ["quay.io"]), ("gcr", ["*.GCR.io"])]
    let dispatcher := clients.foldl registerEntries (ofFallback fallback)
    IsFirstClaim clients (lowerAscii (registryHost "eu.gcr.io/app")) 1 ("gcr", ["*.GCR.io"]) ∧
    dispatcher.select "eu.gcr.io/app" = .ofHosts "gcr" (.ofList ["*.GCR.io"]) ∧
    dispatcher.select "gcr.io/app" = fallback ∧
    (dispatcher.registerEntries ("base", ["gcr.io"])).select "gcr.io/app" =
      .ofHosts "base" (.ofList ["gcr.io"]) ∧
    (HostSet.ofList ["*." ++ "GCR.io"]).contains "mygcr.io/app" = false := by
  intro fallback clients dispatcher
  have hfirst : IsFirstClaim clients (lowerAscii (registryHost "eu.gcr.io/app")) 1
      ("gcr", ["*.GCR.io"]) := by
    refine ⟨rfl, contains_ofList_iff.1 (by decide), ?_⟩
    intro earlier hearlier hclaims
    rw [List.mem_singleton.1 hearlier, ← contains_ofList_iff] at hclaims
    exact absurd hclaims (by decide)
  have hnone : ∀ client ∈ clients, ¬ Claims client.2 (lowerAscii (registryHost "gcr.io/app")) := by
    intro client hclient hclaims
    rw [← contains_ofList_iff] at hclaims
    rcases List.mem_cons.1 hclient with rfl | hclient
    · exact absurd hclaims (by decide)
    · rw [List.mem_singleton.1 hclient] at hclaims
      exact absurd hclaims (by decide)
  have hbase : Claims ["gcr.io"] (lowerAscii (registryHost "gcr.io/app")) :=
    contains_ofList_iff.1 (by decide)
  have hletters : ∀ before, "my" ≠ before ++ "." := by
    intro before heq
    have hlast := congrArg (·.toList.getLast?) heq
    simp at hlast
  obtain ⟨_, hselect, _⟩ := routed_by_first_claim fallback clients "eu.gcr.io/app"
  obtain ⟨_, _, _, hdefault, _, hmore, _⟩ := routed_by_first_claim fallback clients "gcr.io/app"
  obtain ⟨_, _, _, _, _, _, hwildcard⟩ := routed_by_first_claim fallback clients "mygcr.io/app"
  exact ⟨hfirst, hselect 1 _ hfirst, hdefault hnone, (hmore ("base", _)).2.1 ⟨hnone, hbase⟩,
    hwildcard "GCR.io" "my" hletters (by decide)⟩

end Dispatcher

end LatestTag
