import Mathlib.Data.List.TakeWhile
import SnapshotEngine.Proofs.Url.Path
import SnapshotEngine.Url

/-!
# Texts that are put at the end of a URL

A URL that starts with a scheme, a host and the beginning of a path may go on with any text.
It stays a URL of that host, whatever the text is; but only a part of the text is looked at,
and only a part of that belongs to the path.

* `clean_append`, `parse?_of_clean` — the URL of a host;
* `pathAndQuery_append` — what becomes of the text;
* `pathPart_shown_eq_self_iff` — the texts that are part of the path from end to end;
* `target_withPairs` — what is sent of a URL with pairs.
-/

namespace SnapshotEngine

namespace Url

/-- What is looked at of the end of a text. -/
def shown (cs : List Char) : List Char :=
  (Text.stripEnd isEdge cs).filter (!isIgnored ·)

/-- What of the end of a text is part of the path. -/
def pathPart (cs : List Char) : List Char :=
  (cs.takeWhile (· ≠ '#')).takeWhile (· ≠ '?')

theorem isEdge_of_isIgnored {c : Char} (h : isIgnored c = true) : isEdge c = true := by
  simp only [isIgnored, Bool.or_eq_true, decide_eq_true_eq] at h
  rcases h with (rfl | rfl) | rfl <;> decide

/-- What is looked at of a text that starts with something to look at. -/
theorem clean_append {front : List Char} (hne : front ≠ []) (h : ∀ c ∈ front, isEdge c = false)
    (cs : List Char) : clean (front ++ cs) = front ++ shown cs := by
  have hfilter : front.filter (!isIgnored ·) = front := by
    refine List.filter_eq_self.mpr fun c hc => ?_
    cases hignored : isIgnored c with
    | false => rfl
    | true => cases (isEdge_of_isIgnored hignored).symm.trans (h c hc)
  rw [clean, Text.strip, Text.dropWhile_append_of_kept h cs hne, Text.stripEnd_append h,
    List.filter_append, hfilter]
  rfl

/-- A text that names a host has the URL of that host. -/
theorem parse?_of_clean {text : String} {host rest : List Char}
    (hclean : clean text.toList = 'h' :: 't' :: 't' :: 'p' :: ':' :: '/' :: '/' :: (host ++ rest))
    (hnames : namesHost host = true) (hhost : ∀ c ∈ host, endsAuthority c = false)
    (hrest : rest.head? = some '/') :
    parse? text = some
      { secure := false
        authority := host
        path := (pathAndQuery rest).1
        query := (pathAndQuery rest).2 } := by
  obtain ⟨more, rfl⟩ := List.head?_eq_some_iff.mp hrest
  have hslashes : ('/' :: '/' :: (host ++ '/' :: more)).dropWhile UrlPath.isSlash =
      host ++ '/' :: more := by
    have hne : host ≠ [] := by
      rintro rfl
      cases hnames
    have hkept : ∀ c ∈ host, UrlPath.isSlash c = false := fun c hc =>
      (Bool.or_eq_false_iff.mp (Bool.or_eq_false_iff.mp (hhost c hc)).1).1
    exact Text.dropWhile_append_of_kept hkept _ hne
  have hauthority : (host ++ '/' :: more).takeWhile (!endsAuthority ·) = host := by
    rw [List.takeWhile_append_of_pos fun c hc => by rw [hhost c hc]; rfl]
    simp [endsAuthority, UrlPath.isSlash]
  have hpath : (host ++ '/' :: more).dropWhile (!endsAuthority ·) = '/' :: more := by
    rw [List.dropWhile_append_of_pos fun c hc => by rw [hhost c hc]; rfl]
    simp [endsAuthority, UrlPath.isSlash]
  have hscheme : secure? ['h', 't', 't', 'p'] = some false := rfl
  have htake : ('h' :: 't' :: 't' :: 'p' :: ':' :: '/' :: '/' :: (host ++ '/' :: more)).takeWhile
      (· ≠ ':') = ['h', 't', 't', 'p'] := rfl
  have hdrop : ('h' :: 't' :: 't' :: 'p' :: ':' :: '/' :: '/' :: (host ++ '/' :: more)).dropWhile
      (· ≠ ':') = ':' :: '/' :: '/' :: (host ++ '/' :: more) := rfl
  unfold parse?
  simp only [hclean, htake, hscheme, hdrop, Option.bind_eq_bind, Option.bind_some, hslashes,
    hauthority, hpath, hnames, if_true]
  rfl

/-- What a URL looks at is what was given, or less. -/
theorem pathPart_shown_sublist (cs : List Char) : (pathPart (shown cs)).Sublist cs :=
  (((List.takeWhile_sublist _).trans (List.takeWhile_sublist _)).trans
    List.filter_sublist).trans (Text.stripEnd_isPrefix _ _).sublist

/-- It is all that was given if there is nothing in it that has another meaning, and nothing
to strip. -/
theorem pathPart_shown_eq_self_iff {cs : List Char} :
    pathPart (shown cs) = cs ↔
      (∀ c ∈ cs, c ≠ '#' ∧ c ≠ '?' ∧ isIgnored c = false) ∧
        ∀ c, cs.getLast? = some c → isEdge c = false := by
  constructor
  · intro h
    have hprefix := Text.stripEnd_isPrefix isEdge cs
    have hstrip : Text.stripEnd isEdge cs = cs := by
      refine hprefix.sublist.eq_of_length_le ?_
      have hpart : (pathPart (shown cs)).length ≤ (Text.stripEnd isEdge cs).length :=
        (((List.takeWhile_sublist _).trans (List.takeWhile_sublist _)).trans
          List.filter_sublist).length_le
      rwa [h] at hpart
    refine ⟨fun c hc => ?_, Text.stripEnd_eq_self_iff.mp hstrip⟩
    rw [← h] at hc
    have hmark := (List.takeWhile_sublist _).subset hc
    have hshown := (List.takeWhile_sublist _).subset hmark
    have hquestion := List.mem_takeWhile_imp hc
    have hnumber := List.mem_takeWhile_imp hmark
    refine ⟨of_decide_eq_true hnumber, of_decide_eq_true hquestion, ?_⟩
    simpa using (List.mem_filter.mp hshown).2
  · rintro ⟨hkept, hlast⟩
    have hshown : shown cs = cs := by
      rw [shown, Text.stripEnd_eq_self_iff.mpr hlast]
      exact List.filter_eq_self.mpr fun c hc => by rw [(hkept c hc).2.2]; rfl
    have hnumber : cs.takeWhile (· ≠ '#') = cs :=
      List.takeWhile_eq_self_iff.mpr fun c hc => decide_eq_true (hkept c hc).1
    have hquestion : cs.takeWhile (· ≠ '?') = cs :=
      List.takeWhile_eq_self_iff.mpr fun c hc => decide_eq_true (hkept c hc).2.1
    rw [hshown, pathPart, hnumber, hquestion]

/-- Without a question mark there is no query. -/
theorem query_eq_none {cs : List Char} (h : '?' ∉ cs) : (pathAndQuery cs).2 = none := by
  have hdrop : (cs.takeWhile (· ≠ '#')).dropWhile (· ≠ '?') = [] := by
    refine Text.dropWhile_eq_nil_iff.mpr fun c hc => decide_eq_true ?_
    rintro rfl
    exact h ((List.takeWhile_sublist _).subset hc)
  simp only [pathAndQuery, hdrop]

/-- Before the first mark there is only path. -/
theorem pathAndQuery_append {front : List Char} (h : ∀ c ∈ front, c ≠ '#' ∧ c ≠ '?')
    (cs : List Char) :
    pathAndQuery ('/' :: (front ++ cs)) =
      (UrlPath.normalize (front ++ pathPart cs), (pathAndQuery cs).2) := by
  have hfront : ∀ c ∈ '/' :: front, c ≠ '#' ∧ c ≠ '?' :=
    List.forall_mem_cons.mpr ⟨by decide, h⟩
  have hnumber : ('/' :: front ++ cs).takeWhile (· ≠ '#') =
      '/' :: front ++ cs.takeWhile (· ≠ '#') :=
    List.takeWhile_append_of_pos fun c hc => decide_eq_true (hfront c hc).1
  have hpath : ∀ rest : List Char, ('/' :: front ++ rest).takeWhile (· ≠ '?') =
      '/' :: front ++ rest.takeWhile (· ≠ '?') := fun rest =>
    List.takeWhile_append_of_pos fun c hc => decide_eq_true (hfront c hc).2
  have hquery : ∀ rest : List Char, ('/' :: front ++ rest).dropWhile (· ≠ '?') =
      rest.dropWhile (· ≠ '?') := fun rest =>
    List.dropWhile_append_of_pos fun c hc => decide_eq_true (hfront c hc).2
  rw [← List.cons_append, pathAndQuery, hnumber, hpath, hquery]
  rfl

/-- What is sent to the host starts with the path, and the query after it is that of the
pairs alone if the URL had none. -/
theorem target_withPairs (u : Url) (pairs : List (String × String)) :
    ∃ query, (u.withPairs pairs).target.toList = UrlPath.render u.path ++ '?' :: query ∧
      (u.query = none → query = Form.encode pairs) := by
  refine ⟨_, String.toList_ofList, fun hnone => ?_⟩
  rw [hnone]

end Url

end SnapshotEngine
