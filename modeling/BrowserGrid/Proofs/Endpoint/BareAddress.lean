import BrowserGrid.Endpoint
import BrowserGrid.Proofs.Text.Spelling

/-!
# Addresses without a scheme

An address that states no scheme is read as one of the scheme http, and any number of slashes in
front of its host is skipped, since this is how URLs of the web are read.  An address that states
its scheme is refused when a slash stands in the place of the host.  So the two forms of one address
mean the same, unless the bare one starts with a slash and still has a host.

* `UrlReader.Standard`: what this takes of the reader of URLs, whichever it is; the one of the hub
  has it (`Url.standard_reader`).
* `UrlReader.bare_as_http`: when the two forms of an address mean the same.
-/

namespace BrowserGrid

/-! ### URLs of the scheme http -/

namespace Url

/-- What `strip` leaves of the end of a URL. -/
def stripEnd (cs : List Char) : List Char :=
  (cs.rdropWhile fun c => c.toNat ≤ 0x20).filter fun c => c ≠ '\t' ∧ c ≠ '\n' ∧ c ≠ '\r'

variable {front : List Char}

theorem rdropWhile_append (hfront : ∀ c ∈ front, 0x20 < c.toNat) (cs : List Char) :
    ((front ++ cs).rdropWhile fun c => c.toNat ≤ 0x20) =
      front ++ cs.rdropWhile fun c => c.toNat ≤ 0x20 := by
  induction cs using List.reverseRecOn with
  | nil =>
    rw [List.append_nil, List.rdropWhile_nil, List.append_nil]
    refine List.rdropWhile_eq_self_iff.2 fun hne => ?_
    have hlast := hfront _ (List.getLast_mem hne)
    simpa using hlast
  | append_singleton cs c ih =>
    rw [← List.append_assoc]
    by_cases hlow : c.toNat ≤ 0x20
    · rw [List.rdropWhile_concat_pos _ _ _ (by simpa using hlow), ih,
        List.rdropWhile_concat_pos _ _ _ (by simpa using hlow)]
    · rw [List.rdropWhile_concat_neg _ _ _ (by simpa using hlow),
        List.rdropWhile_concat_neg _ _ _ (by simpa using hlow), List.append_assoc]

/-- Visible characters in front are not touched. -/
theorem stripEnd_append (hfront : ∀ c ∈ front, 0x20 < c.toNat) (cs : List Char) :
    stripEnd (front ++ cs) = front ++ stripEnd cs := by
  have hkept : front.filter (fun c => c ≠ '\t' ∧ c ≠ '\n' ∧ c ≠ '\r') = front := by
    refine List.filter_eq_self.2 fun c hc => ?_
    have hvisible := hfront c hc
    refine decide_eq_true ⟨?_, ?_, ?_⟩ <;>
    · rintro rfl
      revert hvisible
      decide
  rw [stripEnd, rdropWhile_append hfront, List.filter_append, hkept, stripEnd]

theorem strip_append (hne : front ≠ []) (hfront : ∀ c ∈ front, 0x20 < c.toNat) (cs : List Char) :
    strip (front ++ cs) = front ++ stripEnd cs := by
  rw [← stripEnd_append hfront]
  cases front with
  | nil => exact absurd rfl hne
  | cons c front =>
    have hc : ¬c.toNat ≤ 0x20 := by
      have hvisible := hfront c List.mem_cons_self
      omega
    have hstart : (c :: (front ++ cs)).dropWhile (fun c => decide (c.toNat ≤ 0x20)) =
        c :: (front ++ cs) := List.dropWhile_cons_of_neg (by simpa using hc)
    unfold strip
    dsimp only
    rw [List.cons_append, hstart]
    rfl

/-- A scheme ends at the first colon. -/
theorem scheme?_append {c : Char} {n : List Char} (hc : c.isAlpha = true)
    (hname : ∀ d ∈ c :: n, isSchemeChar d = true) (cs : List Char) :
    scheme? (c :: n ++ ':' :: cs) = some (Text.lower (String.ofList (c :: n)), cs) := by
  have hcolon : ¬isSchemeChar ':' = true := by decide
  have hdrop : (c :: n ++ ':' :: cs).dropWhile isSchemeChar = ':' :: cs := by
    rw [List.dropWhile_append_of_pos hname, List.dropWhile_cons_of_neg hcolon]
  have htake : (c :: n ++ ':' :: cs).takeWhile isSchemeChar = c :: n := by
    rw [List.takeWhile_append_of_pos hname, List.takeWhile_cons_of_neg hcolon, List.append_nil]
  rw [List.cons_append] at hdrop htake ⊢
  unfold scheme?
  dsimp only
  rw [hc, hdrop, htake]
  rfl

theorem parse?_http (t : String) :
    parse? ("http://" ++ t) = ofAuthority? "http" ((stripEnd t.toList).dropWhile isSlash) := by
  have hstrip : strip ("http://" ++ t).toList =
      ['h', 't', 't', 'p', ':', '/', '/'] ++ stripEnd t.toList := by
    rw [String.toList_append]
    exact strip_append (by decide) (by simp) t.toList
  have hname : Text.lower (String.ofList ['h', 't', 't', 'p']) = "http" := by decide
  have hscheme : scheme? (strip ("http://" ++ t).toList) =
      some ("http", '/' :: '/' :: stripEnd t.toList) := by
    have hcut := scheme?_append (c := 'h') (n := ['t', 't', 'p']) (by decide)
      (by simp [isSchemeChar]) ('/' :: '/' :: stripEnd t.toList)
    rw [hname] at hcut
    rw [hstrip]
    exact hcut
  have hkind : kind "http" = .special := by decide
  unfold parse?
  rw [hscheme, Option.bind_eq_bind, Option.bind_some]
  dsimp only
  rw [hkind]
  rfl

/-- A text without the slashes in front. -/
def withoutSlashes (t : String) : String := String.ofList (t.toList.dropWhile isSlash)

theorem toNat_of_isSlash {c : Char} (h : isSlash c = true) : 0x20 < c.toNat := by
  rcases Bool.or_eq_true_iff.1 h with hc | hc <;>
  · rw [of_decide_eq_true hc]
    decide

theorem parse?_http_withoutSlashes (t : String) :
    parse? ("http://" ++ withoutSlashes t) = parse? ("http://" ++ t) := by
  have hslash : ∀ c ∈ t.toList.takeWhile isSlash, isSlash c = true := fun c hc =>
    List.mem_takeWhile_imp hc
  have hsplit : t.toList = t.toList.takeWhile isSlash ++ (withoutSlashes t).toList := by
    rw [withoutSlashes, String.toList_ofList, List.takeWhile_append_dropWhile]
  rw [parse?_http, parse?_http, hsplit,
    stripEnd_append (fun c hc => toNat_of_isSlash (hslash c hc)),
    List.dropWhile_append_of_pos hslash]

end Url

/-! ### Addresses -/

namespace UrlReader

open Url (withoutSlashes)

/-- What the URL standard says of URLs of the scheme http. -/
structure Standard {υ : Type} (reader : UrlReader υ) : Prop where
  /-- Slashes of either direction in front of the host make no difference. -/
  slashes : ∀ t, reader.parse? ("http://" ++ withoutSlashes t) = reader.parse? ("http://" ++ t)
  /-- A URL without a host is none. -/
  hostless : reader.parse? "http://" = none

end UrlReader

theorem Url.standard_reader : Url.reader.Standard where
  slashes := Url.parse?_http_withoutSlashes
  hostless := by decide +kernel

namespace UrlReader

open Url (withoutSlashes)

/-- An address that states no scheme. -/
def IsBare (a : String) : Prop := ¬"://".toList <:+: a.toList

instance (a : String) : Decidable (IsBare a) := inferInstanceAs (Decidable ¬_)

variable {υ : Type} {reader : UrlReader υ}

/-- A URL that has a host. -/
def hosted? (reader : UrlReader υ) (url : υ) : Option υ :=
  (reader.host? url).bind fun host => if host.isEmpty then none else some url

theorem endpoint?_of_isBare {a : String} (h : IsBare a) :
    reader.endpoint? a = (reader.parse? ("http://" ++ Text.trim a)).bind reader.hosted? := by
  have hcut : Text.cut? "://" (Text.trim a) = none := by
    have hnone : ¬"://".toList <:+: (Text.trim a).toList := by
      rw [Text.toList_trim]
      exact fun hin => h (hin.trans (Text.trimList_infix a.toList))
    rw [Text.cut?, (Text.cutList_eq_none_iff (by decide)).2 hnone, Option.map_none]
  unfold endpoint?
  dsimp only
  rw [hcut]
  rfl

/-- An address with a scheme and nothing, or a slash, in the place of the host is refused. -/
theorem endpoint?_of_cut? {a front rest : String}
    (hcut : Text.cut? "://" (Text.trim a) = some (front, rest))
    (hrest : rest = "" ∨ rest.startsWith '/' = true) : reader.endpoint? a = none := by
  have hguard : rest.isEmpty = true ∨ rest.startsWith '/' = true :=
    hrest.imp_left String.isEmpty_iff.2
  unfold endpoint?
  dsimp only
  rw [hcut]
  dsimp only
  rw [if_pos hguard]
  rfl

theorem cut?_http (t : String) : Text.cut? "://" ("http://" ++ t) = some ("http", t) := by
  have hcut : Text.cutList "://".toList ("http://" ++ t).toList = some ("http".toList, t.toList) := by
    rw [String.toList_append]
    rfl
  rw [Text.cut?, hcut]
  simp

theorem Standard.endpoint?_http (h : reader.Standard) {t : String}
    (ht : Text.trimRightList t.toList = t.toList) :
    reader.endpoint? ("http://" ++ t) =
      if t.startsWith '/' then none
      else (reader.parse? ("http://" ++ t)).bind reader.hosted? := by
  have htrim : Text.trim ("http://" ++ t) = "http://" ++ t := by
    rw [Text.trim, String.toList_append, Text.trimList_append (by decide) (by decide) ht,
      ← String.toList_append, String.ofList_toList]
  have hcut : Text.cut? "://" (Text.trim ("http://" ++ t)) = some ("http", t) :=
    htrim.symm ▸ cut?_http t
  by_cases hslash : t.startsWith '/' = true
  · rw [if_pos hslash]
    exact endpoint?_of_cut? hcut (.inr hslash)
  · rw [if_neg hslash]
    by_cases hempty : t = ""
    · rw [endpoint?_of_cut? hcut (.inl hempty), hempty, String.append_empty, h.hostless]
      rfl
    · unfold endpoint?
      dsimp only
      rw [hcut]
      dsimp only
      rw [if_neg (by simp [hempty, hslash]), htrim]
      rfl

/-- Two addresses with one host and one identity, or both without. -/
structure Alike (reader : UrlReader υ) (a b : String) : Prop where
  parses : (reader.endpoint? a).isSome = (reader.endpoint? b).isSome
  host : reader.endpointHost? a = reader.endpointHost? b
  authority : reader.endpointAuthority? a = reader.endpointAuthority? b

theorem Alike.of_eq {a b : String} (h : reader.endpoint? a = reader.endpoint? b) :
    reader.Alike a b where
  parses := by rw [h]
  host := by rw [endpointHost?, endpointHost?, h]
  authority := by rw [endpointAuthority?, endpointAuthority?, h]

theorem endpointHost?_of_endpoint? {a : String} (h : reader.endpoint? a = none) :
    reader.endpointHost? a = none := by
  rw [endpointHost?, h]
  rfl

theorem endpointAuthority?_of_endpoint? {a : String} (h : reader.endpoint? a = none) :
    reader.endpointAuthority? a = none := by
  rw [endpointAuthority?, h]
  rfl

theorem trimRightList_trim (a : String) :
    Text.trimRightList (Text.trim a).toList = (Text.trim a).toList := by
  rw [Text.toList_trim]
  exact List.rdropWhile_idempotent _ _

/-- The end of a trimmed text is trimmed. -/
theorem trimRightList_withoutSlashes {t : String} (h : Text.trimRightList t.toList = t.toList) :
    Text.trimRightList (withoutSlashes t).toList = (withoutSlashes t).toList := by
  have hsuffix : (withoutSlashes t).toList <:+ t.toList := by
    rw [withoutSlashes, String.toList_ofList]
    exact List.dropWhile_suffix _
  rw [Text.trimRightList_eq] at h ⊢
  refine List.rdropWhile_eq_self_iff.2 fun hne => ?_
  rw [hsuffix.getLast hne]
  exact List.rdropWhile_eq_self_iff.1 h _

theorem startsWith_withoutSlashes (t : String) : (withoutSlashes t).startsWith '/' = false := by
  rw [String.startsWith_char_eq_head?, withoutSlashes, String.toList_ofList]
  cases hdrop : t.toList.dropWhile Url.isSlash with
  | nil => rfl
  | cons c rest =>
    have hc : ¬Url.isSlash c = true := by
      have hhead := List.head_dropWhile_not (p := Url.isSlash) (l := t.toList) (by simp [hdrop])
      simpa [hdrop] using hhead
    have hne : c ≠ '/' := by
      rintro rfl
      exact hc (by decide)
    simpa using hne

/-- An address of blanks has no host. -/
theorem Standard.endpoint?_of_blank (h : reader.Standard) {a : String} (ha : Text.trim a = "") :
    reader.endpoint? a = none := by
  have hcut : Text.cut? "://" "" = none := by decide +kernel
  unfold endpoint?
  dsimp only
  rw [ha, hcut]
  dsimp only
  rw [String.append_empty, h.hostless]
  rfl

/-- A bare address means its http form without the slashes in front.  The http form with them is
refused, which is all that tells the two apart; and an address has no host if it is blank or has
nothing, or a slash, after its scheme. -/
theorem bare_as_http (hreader : reader.Standard) (a : String) :
    (IsBare a →
      reader.endpoint? a = reader.endpoint? ("http://" ++ withoutSlashes (Text.trim a)) ∧
      reader.endpoint? ("http://" ++ Text.trim a) =
        (if (Text.trim a).startsWith '/' then none else reader.endpoint? a) ∧
      (reader.Alike a ("http://" ++ Text.trim a) ↔
        ¬((Text.trim a).startsWith '/' = true ∧ (reader.endpoint? a).isSome = true))) ∧
    ((Text.trim a = "" ∨ ∃ front rest, Text.cut? "://" (Text.trim a) = some (front, rest) ∧
        (rest = "" ∨ rest.startsWith '/' = true)) →
      reader.endpoint? a = none ∧ reader.endpointHost? a = none ∧
        reader.endpointAuthority? a = none) := by
  refine ⟨fun ha => ?_, fun ha => ?_⟩
  · -- behind the guard of the http form the reader is given the same text in both forms
    have hhttp : reader.endpoint? ("http://" ++ Text.trim a) =
        if (Text.trim a).startsWith '/' then none else reader.endpoint? a := by
      rw [hreader.endpoint?_http (trimRightList_trim a), endpoint?_of_isBare ha]
    refine ⟨?_, hhttp, ?_⟩
    · have hright := trimRightList_withoutSlashes (trimRightList_trim a)
      rw [hreader.endpoint?_http hright, startsWith_withoutSlashes, if_neg Bool.false_ne_true,
        hreader.slashes, endpoint?_of_isBare ha]
    · constructor
      · rintro halike ⟨hslash, hsome⟩
        rw [halike.parses, hhttp, if_pos hslash] at hsome
        cases hsome
      · intro hagree
        apply Alike.of_eq
        rw [hhttp]
        split
        · rename_i hslash
          exact Option.not_isSome_iff_eq_none.1 fun hsome => hagree ⟨hslash, hsome⟩
        · rfl
  · have hnone : reader.endpoint? a = none := by
      rcases ha with hblank | ⟨front, rest, hcut, hrest⟩
      · exact hreader.endpoint?_of_blank hblank
      · exact endpoint?_of_cut? hcut hrest
    exact ⟨hnone, endpointHost?_of_endpoint? hnone, endpointAuthority?_of_endpoint? hnone⟩

theorem bare_as_http_padded :
    Url.reader.Standard ∧ IsBare " Node-A:5555/wd " ∧
      Endpoint.authority? " Node-A:5555/wd " = some "node-a:5555" ∧
      Url.reader.Alike " Node-A:5555/wd " "http://Node-A:5555/wd" ∧
      Endpoint.authority? "http:///wd/hub" = none := by
  have hbare : IsBare " Node-A:5555/wd " := by decide
  obtain ⟨-, -, halike⟩ := (bare_as_http Url.standard_reader " Node-A:5555/wd ").1 hbare
  have htrim : Text.trim " Node-A:5555/wd " = "Node-A:5555/wd" := by decide +kernel
  rw [htrim] at halike
  have hcut : Text.cut? "://" (Text.trim "http:///wd/hub") = some ("http", "/wd/hub") := by
    decide +kernel
  obtain ⟨-, -, hnone⟩ := (bare_as_http Url.standard_reader "http:///wd/hub").2
    (.inr ⟨"http", "/wd/hub", hcut, .inr (by decide +kernel)⟩)
  exact ⟨Url.standard_reader, hbare, by decide +kernel, halike.2 (by decide +kernel), hnone⟩

/-- The first segment of a path is taken as the host of a bare address. -/
theorem path_taken_as_host :
    IsBare "/wd/hub" ∧ Endpoint.host? "/wd/hub" = some "wd" ∧
      Endpoint.authority? "/wd/hub" = some "wd:80" ∧
      Endpoint.parse? ("http://" ++ Text.trim "/wd/hub") = none ∧
      ¬∀ reader : UrlReader Url, reader.Standard →
        ∀ a, IsBare a → reader.Alike a ("http://" ++ Text.trim a) := by
  have hbare : IsBare "/wd/hub" := by decide
  have hnone : Endpoint.parse? ("http://" ++ Text.trim "/wd/hub") = none := by decide +kernel
  refine ⟨hbare, by decide +kernel, by decide +kernel, hnone, fun hall => ?_⟩
  have hparses := (hall Url.reader Url.standard_reader "/wd/hub" hbare).parses
  rw [show Url.reader.endpoint? ("http://" ++ Text.trim "/wd/hub") = none from hnone] at hparses
  revert hparses
  decide +kernel

end UrlReader

end BrowserGrid
