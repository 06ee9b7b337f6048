import Mathlib.Data.List.TakeWhile
import PriceHistory.Proofs.Web.Path
import PriceHistory.Web.Url

/-!
Addresses of services on the web. Behind a scheme and a host, a path without the marks of a query or a
fragment is read by itself. Where it is segments that a path keeps, the URL has them as they are written, and
where pairs are added, its text tells all of the segments and all of the pairs.
-/
namespace PriceHistory.Web

open PriceHistory.Web.Path (Inner Kept slashed)

/-! ### The parts of a text -/

theorem cut_of_not_mem {mark : Char} {cs : List Char} (absent : mark ∉ cs) : cut mark cs = (cs, none) := by
  have all : cs.dropWhile (· ≠ mark) = [] := by
    rw [List.dropWhile_eq_nil_iff]
    intro c member
    simpa using fun same : c = mark => absent (same ▸ member)
  rw [cut, all]

namespace Url

/-- Only tabs and line ends are dropped from a text whose ends are visible. -/
theorem cleaned_of_visible {cs : List Char} (first : ∀ c ∈ cs.head?, 0x20 < c.toNat)
    (last : ∀ c ∈ cs.getLast?, 0x20 < c.toNat) :
    cleaned cs = cs.filter fun c => c ≠ '\t' ∧ c ≠ '\n' ∧ c ≠ '\r' := by
  have front {cs : List Char} (visible : ∀ c ∈ cs.head?, 0x20 < c.toNat) :
      cs.dropWhile (fun c => decide (c.toNat ≤ 0x20)) = cs := by
    cases cs with
    | nil => rfl
    | cons c cs =>
      have inside := visible c rfl
      rw [List.dropWhile_cons_of_neg (by simpa using inside)]
  rw [cleaned, front first, front (by rwa [List.head?_reverse]), List.reverse_reverse]

theorem readScheme_web {scheme : String} (web : scheme = "http" ∨ scheme = "https") (rest : List Char) :
    readScheme (scheme.toList ++ ':' :: rest) = some (scheme, rest) := by
  rcases web with rfl | rfl <;> rfl

theorem host?_withoutUser (u : Url) : u.withoutUser.host? = u.host? := by
  obtain ⟨_, authority, _, _, _⟩ := u
  cases authority with
  | none => rfl
  | some a =>
    unfold withoutUser host?
    dsimp only [Option.map_some]
    split <;> rfl

/-- Pairs are all that is in the query of a URL which had none. -/
theorem query_withPairs {u : Url} (none : u.query = none) {pairs : List (String × String)} (some : pairs ≠ []) :
    (u.withPairs pairs).query = .some (String.ofList (Form.encodePairs pairs)) := by
  simp [withPairs, none, Form.encodePairs_eq_nil_iff, some]

end Url

/-! ### Hosts -/

/-- A scheme of the web and a host. The host is read as an authority, and can be sent to. -/
structure Origin where
  scheme : String
  host : String
  authority : Authority
  web : scheme = "http" ∨ scheme = "https"
  inner : ∀ c ∈ host.toList, Inner c
  named : Authority.read scheme host.toList = some (authority, [])
  reachable : authority.host ≠ "" ∧ ∀ c ∈ authority.host.toList, c ≠ '"' ∧ c ≠ '\x60' ∧ c ≠ '\x7b' ∧ c ≠ '\x7d'

/-- Nothing is dropped of what stays where it is. -/
theorem filter_of_inner {cs : List Char} (inner : ∀ c ∈ cs, c = '/' ∨ Inner c) :
    cs.filter (fun c => c ≠ '\t' ∧ c ≠ '\n' ∧ c ≠ '\r') = cs := by
  rw [List.filter_eq_self]
  intro c member
  rcases inner c member with rfl | inner
  · rfl
  · exact decide_eq_true ⟨inner.ne (by decide), inner.ne (by decide), inner.ne (by decide)⟩

namespace Origin

variable (origin : Origin)

/-- The scheme and the host as they are written. -/
def text : String :=
  origin.scheme ++ "://" ++ origin.host

theorem toList_text : origin.text.toList = origin.scheme.toList ++ ':' :: '/' :: '/' :: origin.host.toList := by
  simp [text]

theorem host_ne_nil : origin.host.toList ≠ [] := by
  intro nothing
  have named := origin.named
  rw [nothing] at named
  rcases origin.web with web | web <;> rw [web] at named <;> cases named

/-- It does not end in a slash. -/
theorem exists_getLast?_text : ∃ c, origin.text.toList.getLast? = some c ∧ c ≠ '/' := by
  have inner := origin.inner _ (List.getLast_mem origin.host_ne_nil)
  rw [toList_text, List.getLast?_append, List.getLast?_cons, List.getLast?_cons, List.getLast?_cons,
    List.getLast?_eq_some_getLast origin.host_ne_nil]
  exact ⟨_, rfl, inner.ne (by decide)⟩

/-- What follows the scheme is parted into the host and the path. -/
theorem readBody_rooted (behind : List Char) :
    Url.readBody origin.scheme ('/' :: '/' :: (origin.host.toList ++ '/' :: behind)) =
      some (some origin.authority, Path.read true ('/' :: behind)) := by
  have special : isSpecial origin.scheme = true ∧ origin.scheme ≠ "file" := by
    rcases origin.web with web | web <;> rw [web] <;> decide
  have host : ∀ c ∈ origin.host.toList, (!Path.isSlash true c) = true := fun c member => by
    simp [(origin.inner c member).not_isSlash]
  have dropped : ('/' :: '/' :: (origin.host.toList ++ '/' :: behind)).dropWhile (Path.isSlash true) =
      origin.host.toList ++ '/' :: behind := by
    obtain ⟨c, cs, starts⟩ := List.exists_cons_of_ne_nil origin.host_ne_nil
    have first : Path.isSlash true c = false := (origin.inner c (by simp [starts])).not_isSlash
    rw [starts, List.cons_append, List.dropWhile_cons_of_pos rfl, List.dropWhile_cons_of_pos rfl,
      List.dropWhile_cons_of_neg (by simp [first])]
  have spanned : (origin.host.toList ++ '/' :: behind).span (!Path.isSlash true ·) =
      (origin.host.toList, '/' :: behind) := by
    rw [List.span_eq_takeWhile_dropWhile, List.takeWhile_append_of_pos host,
      List.dropWhile_append_of_pos host]
    simp [Path.isSlash]
  rw [Url.readBody, if_neg special.2, if_pos special.1, dropped, spanned]
  dsimp only
  rw [origin.named]
  rfl

/-- A path behind the host, without a query or a fragment, is read by itself. Tabs and line ends in it are
dropped; nothing else may be dropped at its end. -/
theorem ofText?_rooted {path : String} (rooted : ∃ behind, path.toList = '/' :: behind)
    (plain : ∀ c ∈ path.toList, c ≠ '?' ∧ c ≠ '#') (visible : ∀ c ∈ path.toList.getLast?, 0x20 < c.toNat) :
    Url.ofText? (origin.text ++ path) = some {
      scheme := origin.scheme
      authority := some origin.authority
      path := .read true (path.toList.filter fun c => c ≠ '\t' ∧ c ≠ '\n' ∧ c ≠ '\r')
      query := none
      fragment := none } := by
  obtain ⟨behind, starts⟩ := rooted
  rw [starts] at plain visible ⊢
  let kept (c : Char) : Bool := c ≠ '\t' ∧ c ≠ '\n' ∧ c ≠ '\r'
  have whole : (origin.text ++ path).toList =
      origin.scheme.toList ++ ':' :: '/' :: '/' :: (origin.host.toList ++ '/' :: behind) := by
    rw [String.toList_append, toList_text, starts]
    simp
  -- Tabs and line ends can only be dropped from the path.
  have scheme : origin.scheme.toList.filter kept = origin.scheme.toList := by
    rcases origin.web with web | web <;> rw [web] <;> rfl
  have host : origin.host.toList.filter kept = origin.host.toList :=
    filter_of_inner fun c member => .inr (origin.inner c member)
  have first : ∀ c ∈ (origin.text ++ path).toList.head?, 0x20 < c.toNat := by
    intro c first
    obtain rfl : 'h' = c := by
      rw [whole] at first
      rcases origin.web with web | web <;> rw [web] at first <;> exact Option.some.inj first
    decide
  have last : ∀ c ∈ (origin.text ++ path).toList.getLast?, 0x20 < c.toNat := by
    rwa [String.toList_append, starts, List.getLast?_append_of_ne_nil _ (List.cons_ne_nil _ _)]
  have clean : Url.cleaned (origin.text ++ path).toList = origin.scheme.toList ++ ':' :: '/' :: '/' ::
      (origin.host.toList ++ '/' :: behind.filter kept) := by
    rw [Url.cleaned_of_visible first last, whole, List.filter_append, scheme]
    change _ ++ ':' :: '/' :: '/' :: (origin.host.toList ++ '/' :: behind).filter kept = _
    rw [List.filter_append, host]
    rfl
  -- So there is no mark at which the URL would be cut.
  have absent {mark : Char} (outer : ¬Inner mark) (plain : ∀ c ∈ '/' :: behind, c ≠ mark) :
      mark ∉ '/' :: '/' :: (origin.host.toList ++ '/' :: behind.filter kept) := by
    obtain ⟨slash, others⟩ := List.forall_mem_cons.mp plain
    intro member
    have behind := (List.mem_cons.mp ((List.mem_cons.mp member).resolve_left slash.symm)).resolve_left slash.symm
    rcases List.mem_append.mp behind with host | path
    · exact outer (origin.inner mark host)
    · rcases List.mem_cons.mp path with same | inside
      · exact slash same.symm
      · exact others mark (List.mem_filter.mp inside).1 rfl
  rw [Url.ofText?, clean, Url.readScheme_web origin.web]
  simp only [Option.bind_eq_bind, Option.bind_some]
  rw [cut_of_not_mem (absent (by decide) fun c member => (plain c member).2)]
  dsimp only
  rw [cut_of_not_mem (absent (by decide) fun c member => (plain c member).1)]
  dsimp only
  rw [origin.readBody_rooted]
  rfl

theorem host?_of_authority {u : Url} (same : u.authority = some origin.authority) :
    u.host? = some origin.authority.host := by
  simp [Url.host?, same, origin.reachable.1]

/-- What is sent to the host can be sent if it is not too long. -/
theorem isSendable_of_host? {u : Url} (scheme : u.scheme = origin.scheme)
    (host : u.host? = some origin.authority.host) :
    u.isSendable = decide (u.text.utf8ByteSize < 65535) := by
  have web : (u.scheme == "http" || u.scheme == "https") = true := by
    rw [scheme]
    simpa using origin.web
  have sent : origin.authority.host.toList.all (fun c => c ≠ '"' ∧ c ≠ '\x60' ∧ c ≠ '\x7b' ∧ c ≠ '\x7d') = true :=
    List.all_eq_true.mpr fun c member => decide_eq_true (origin.reachable.2 c member)
  rw [Url.isSendable, web, host, Option.getD_some, sent, Bool.true_and, Bool.true_and]

end Origin

/-! ### Base addresses -/

/-- The base address of a service: a scheme of the web, a host, and folders that a path keeps as they are
written. The host is read as an authority without a user, and can be sent to. -/
structure Site where
  scheme : String
  host : String
  authority : Authority
  folders : List String
  web : scheme = "http" ∨ scheme = "https"
  inner : ∀ c ∈ host.toList, Inner c
  named : Authority.read scheme host.toList = some (authority, [])
  anonymous : authority.user = "" ∧ authority.password = ""
  reachable : authority.host ≠ "" ∧ ∀ c ∈ authority.host.toList, c ≠ '"' ∧ c ≠ '\x60' ∧ c ≠ '\x7b' ∧ c ≠ '\x7d'
  kept : ∀ folder ∈ folders, Kept folder.toList ∧ ∀ c ∈ folder.toList, pathSet c = false
  closed : folders.getLast? ≠ some ""

namespace Site

variable (site : Site)

/-- The host of the service. -/
def origin : Origin where
  scheme := site.scheme
  host := site.host
  authority := site.authority
  web := site.web
  inner := site.inner
  named := site.named
  reachable := site.reachable

/-- The address as it is written. -/
def text : String :=
  site.scheme ++ "://" ++ site.host ++ String.join (site.folders.map ("/" ++ ·))

/-- The URL of a path under the address, with pairs in its query. -/
def url (parts : List String) (pairs : List (String × String)) : Url where
  scheme := site.scheme
  authority := some site.authority
  path := .segments (site.folders ++ parts)
  query := if pairs = [] then none else some (String.ofList (Form.encodePairs pairs))
  fragment := none

theorem toList_text : site.text.toList = site.origin.text.toList ++ slashed site.folders := by
  have folders := Path.toList_text_segments site.folders
  rw [Path.text] at folders
  rw [text, String.toList_append, folders]
  rfl

/-- The address does not end in a slash. -/
theorem exists_getLast?_text : ∃ c, site.text.toList.getLast? = some c ∧ c ≠ '/' := by
  rw [toList_text]
  cases final : site.folders.getLast? with
  | none =>
    rw [List.getLast?_eq_none_iff.mp final, slashed, List.flatMap_nil, List.append_nil]
    exact site.origin.exists_getLast?_text
  | some last =>
    have nonempty : last.toList ≠ [] := by
      rintro nothing
      rw [String.toList_eq_nil_iff.mp nothing] at final
      exact site.closed final
    have kept := (site.kept last (List.mem_of_getLast? final)).1
    rw [List.getLast?_append, Path.getLast?_slashed final, List.getLast?_eq_some_getLast nonempty]
    exact ⟨_, rfl, (kept.inner _ (List.getLast_mem nonempty)).ne (by decide)⟩

theorem read_under {parts : List String} (kept : ∀ part ∈ parts, Kept part.toList) (some : parts ≠ []) :
    Path.read true (slashed (site.folders ++ parts)) =
      .segments (site.folders ++ parts.map encodedSegment) := by
  have plain : site.folders.map encodedSegment = site.folders :=
    (List.map_congr_left fun folder member => encodedSegment_of_plain (site.kept folder member).2).trans
      (List.map_id' _)
  have all : ∀ part ∈ site.folders ++ parts, Kept part.toList :=
    List.forall_mem_append.mpr ⟨fun folder member => (site.kept folder member).1, kept⟩
  rw [Path.read_slashed all (by simp [some]), List.map_append, plain]

theorem inner_under {parts : List String} (kept : ∀ part ∈ parts, Kept part.toList) :
    ∀ c ∈ slashed (site.folders ++ parts), c = '/' ∨ Inner c := by
  intro c member
  rcases Path.mem_slashed member with slash | ⟨part, among, inside⟩
  · exact .inl slash
  · rcases List.mem_append.mp among with folder | part
    · exact .inr ((site.kept _ folder).1.inner c inside)
    · exact .inr ((kept _ part).inner c inside)

/-- A path under the address, of segments that are kept, is read as it is written. Nothing may be dropped at
its end. -/
theorem ofText?_under {parts : List String} {last : String} (kept : ∀ part ∈ parts, Kept part.toList)
    (ends : parts.getLast? = some last) (visible : ∀ c ∈ last.toList.getLast?, 0x20 < c.toNat) :
    Url.ofText? (site.text ++ String.join (parts.map ("/" ++ ·))) =
      some (site.url (parts.map encodedSegment) []) := by
  have some : parts ≠ [] := by
    rintro rfl
    cases ends
  have inner := site.inner_under kept
  have path : (String.ofList (slashed (site.folders ++ parts))).toList = slashed (site.folders ++ parts) :=
    String.toList_ofList
  have whole : site.text ++ String.join (parts.map ("/" ++ ·)) =
      site.origin.text ++ String.ofList (slashed (site.folders ++ parts)) := by
    have more : (String.join (parts.map ("/" ++ ·))).toList = slashed parts := Path.toList_text_segments parts
    rw [← String.toList_inj, String.toList_append, String.toList_append, toList_text, more, path,
      Path.slashed_append, List.append_assoc]
  have final : (slashed (site.folders ++ parts)).getLast? = .some (last.toList.getLast?.getD '/') :=
    Path.getLast?_slashed (by rw [List.getLast?_append, ends]; rfl)
  have read := @Origin.ofText?_rooted site.origin (String.ofList (slashed (site.folders ++ parts)))
  rw [path, final, filter_of_inner inner, site.read_under kept some] at read
  rw [whole]
  apply read
  · exact Path.exists_slashed_eq_cons (List.append_ne_nil_of_right_ne_nil _ some)
  · intro c member
    rcases inner c member with rfl | inner
    · decide
    · exact ⟨inner.ne (by decide), inner.ne (by decide)⟩
  · intro c closing
    cases own : last.toList.getLast? with
    | none =>
      obtain rfl : '/' = c := by simpa [own] using closing
      decide
    | some d =>
      obtain rfl : d = c := by simpa [own] using closing
      exact visible d own

/-! ### What is sent -/

/-- A query with its mark. -/
def queryText (pairs : List (String × String)) : List Char :=
  if pairs = [] then [] else '?' :: Form.encodePairs pairs

theorem queryText_inj {one other : List (String × String)} : queryText one = queryText other ↔ one = other := by
  refine ⟨fun same => ?_, congrArg queryText⟩
  have read (pairs : List (String × String)) : Form.decodePairs? ((queryText pairs).drop 1) = some pairs := by
    unfold queryText
    split
    next none => rw [none]; rfl
    next => exact Form.decodePairs?_encodePairs pairs
  exact Option.some.inj ((read one).symm.trans (same ▸ read other))

theorem toList_text_url (parts : List String) (pairs : List (String × String)) :
    (site.url parts pairs).text.toList = site.scheme.toList ++ ':' :: '/' :: '/' ::
      (site.authority.text.toList ++ (slashed (site.folders ++ parts) ++ queryText pairs)) := by
  have path : (site.url parts pairs).pathText.toList = slashed (site.folders ++ parts) := by
    rw [Url.pathText, if_neg (by simp [url])]
    exact Path.toList_text_segments _
  have authority : (site.url parts pairs).authorityText = "//" ++ site.authority.text := rfl
  simp only [Url.text, String.toList_append, path, authority, queryText]
  by_cases none : pairs = [] <;> simp [url, none]

/-- The text of a URL under the address tells its segments and its pairs. -/
theorem text_url_inj {parts other : List String} {pairs more : List (String × String)}
    (whole : ∀ part ∈ parts, Path.Whole part) (whole' : ∀ part ∈ other, Path.Whole part) :
    (site.url parts pairs).text = (site.url other more).text ↔ parts = other ∧ pairs = more := by
  refine ⟨fun same => ?_, fun ⟨paths, queries⟩ => by rw [paths, queries]⟩
  have folders : ∀ part ∈ site.folders, Path.Whole part := fun folder member => (site.kept folder member).1.whole
  -- The query starts at the first question mark.
  have before {parts : List String} (whole : ∀ part ∈ parts, Path.Whole part) (pairs : List (String × String)) :
      (slashed (site.folders ++ parts) ++ queryText pairs).takeWhile (· ≠ '?') =
        slashed (site.folders ++ parts) := by
    rw [List.takeWhile_append_of_pos]
    · unfold queryText
      split <;> simp
    · intro c member
      rcases Path.mem_slashed member with rfl | ⟨part, among, inside⟩
      · rfl
      · exact decide_eq_true (List.forall_mem_append.mpr ⟨folders, whole⟩ part among c inside).2
  have chars := congrArg String.toList same
  rw [toList_text_url, toList_text_url] at chars
  have behind := List.append_cancel_left (List.cons.inj (List.cons.inj (List.cons.inj
    (List.append_cancel_left chars)).2).2).2
  have paths : slashed (site.folders ++ parts) = slashed (site.folders ++ other) := by
    rw [← before whole pairs, behind, before whole' more]
  rw [paths] at behind
  have segments := (Path.slashed_inj (List.forall_mem_append.mpr ⟨folders, whole⟩)
    (List.forall_mem_append.mpr ⟨folders, whole'⟩)).mp paths
  exact ⟨List.append_cancel_left segments, queryText_inj.mp (List.append_cancel_left behind)⟩

theorem withoutUser_url (parts : List String) : (site.url parts []).withoutUser = site.url parts [] := by
  have same (a : Authority) (anonymous : a.user = "" ∧ a.password = "") :
      { a with user := "", password := "" } = a := by
    obtain ⟨user, password, host, service⟩ := a
    obtain ⟨rfl, rfl⟩ := anonymous
    rfl
  simp [Url.withoutUser, url, same _ site.anonymous]

theorem withPairs_url (parts : List String) (pairs : List (String × String)) :
    (site.url parts []).withPairs pairs = site.url parts pairs := by
  simp [Url.withPairs, url, Form.encodePairs_eq_nil_iff]

theorem host?_url (parts : List String) (pairs : List (String × String)) :
    (site.url parts pairs).host? = some site.authority.host :=
  site.origin.host?_of_authority rfl

/-- A URL under the address can be sent if it is not too long. -/
theorem isSendable_url (parts : List String) (pairs : List (String × String)) :
    (site.url parts pairs).isSendable = decide ((site.url parts pairs).text.utf8ByteSize < 65535) :=
  site.origin.isSendable_of_host? rfl (site.host?_url parts pairs)

end Site

end PriceHistory.Web
