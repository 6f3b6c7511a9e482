import QueryPlan.Proofs.Encoding.Exprs
import QueryPlan.Proofs.Results

set_option autoImplicit false

/-! # Faithful encoding of queries

Two queries share their bytes exactly when they are alike, as long as all numbers and lengths fit
into four bytes. -/

namespace QueryPlan

open Encoding

/-! ## Sources -/

/-- The names in a written source have lengths that fit. -/
def TableRef.fits : TableRef → Bool
  | .table name | .model name => fitsString name
  | .modelAt location name => fitsString location && fitsString name

theorem TableRef.faithful_encode : Faithful TableRef.encode TableRef.fits Eq := by
  intro a
  refine .of_eq ?_
  intro b ha hb s t h
  cases a with
  | table name =>
    cases b with
    | table name' => rw [((cons_append_iff (faithful_string name name' ha hb s t)).1 h).1]
    | _ => exact absurd (List.cons.inj h).1 (by decide)
  | model name =>
    cases b with
    | model name' => rw [((cons_append_iff (faithful_string name name' ha hb s t)).1 h).1]
    | _ => exact absurd (List.cons.inj h).1 (by decide)
  | modelAt location name =>
    cases b with
    | modelAt location' name' =>
      have hnames := faithful_string.append faithful_string (location, name) (location', name')
        ha hb s t
      obtain ⟨⟨hlocation, hname⟩, -⟩ := (cons_append_iff hnames).1 h
      exact congrArg₂ TableRef.modelAt hlocation hname
    | _ => exact absurd (List.cons.inj h).1 (by decide)

/-- The tag of a written source also tells that it is there. -/
theorem TableRef.faithful_encodeOptional :
    Faithful TableRef.encodeOptional (·.all TableRef.fits) Eq := by
  intro a
  refine .of_eq ?_
  intro b ha hb s t h
  cases a with
  | none =>
    cases b with
    | none => rfl
    | some ref => cases ref <;> exact absurd (List.cons.inj h).1 (by decide)
  | some ref =>
    cases b with
    | none => cases ref <;> exact absurd (List.cons.inj h).1 (by decide)
    | some ref' => rw [((TableRef.faithful_encode ref ref' ha hb s t).1 h).1]

def Source.fits (source : Source) : Bool :=
  fitsString source.table && source.model.all fitsString

theorem Source.faithful_encode : Faithful Source.encode Source.fits Eq := by
  intro a
  refine .of_eq ?_
  intro b ha hb s t h
  have hparts := faithful_string.append faithful_string.optional_eq (a.table, a.model)
    (b.table, b.model) ha hb s t
  obtain ⟨table, model⟩ := a
  obtain ⟨table', model'⟩ := b
  obtain ⟨⟨rfl, rfl⟩, -⟩ := hparts.1 h
  rfl

/-! ## Joins -/

theorem JoinKind.faithful_encode : Faithful JoinKind.encode (fun _ => true) Eq := by
  refine .of_length 1 (fun kind => by cases kind <;> rfl) fun a b _ _ => ?_
  cases a <;> cases b <;> decide

def JoinTarget.fits : JoinTarget → Bool
  | .explicit ref => ref.fits
  | .association binding name => fitsNumber binding && fitsString name

theorem JoinTarget.faithful_encode : Faithful JoinTarget.encode JoinTarget.fits Eq := by
  intro a
  refine .of_eq ?_
  intro b ha hb s t h
  cases a with
  | explicit ref =>
    cases b with
    | explicit ref' => rw [((cons_append_iff (TableRef.faithful_encode _ _ ha hb s t)).1 h).1]
    | association binding' name' => exact absurd (List.cons.inj h).1 (by decide)
  | association binding name =>
    cases b with
    | explicit ref' => exact absurd (List.cons.inj h).1 (by decide)
    | association binding' name' =>
      have hparts := faithful_number.append faithful_string (binding, name) (binding', name')
        ha hb s t
      obtain ⟨⟨hbinding, hname⟩, -⟩ := (cons_append_iff hparts).1 h
      exact congrArg₂ JoinTarget.association hbinding hname

def Join.fits (j : Join) : Bool :=
  j.target.fits && j.on.fits

/-- Joins are told apart up to their conditions, which may be alike. -/
theorem Join.faithful_encode :
    Faithful Join.encode Join.fits fun j j' => j.head = j'.head ∧ j.on.Alike j'.on := by
  intro j j' hj hj' s t
  rw [Join.fits, Bool.and_eq_true] at hj hj'
  show _ ↔ ((j.kind, j.target) = (j'.kind, j'.target) ∧ _) ∧ _
  rw [Join.encode, Join.encode, List.append_assoc, List.append_assoc, List.append_assoc,
    List.append_assoc, JoinKind.faithful_encode _ _ rfl rfl,
    JoinTarget.faithful_encode _ _ hj.1 hj'.1, ClauseExpr.faithful_encode _ _ hj.2 hj'.2,
    Prod.mk.injEq, and_assoc, and_assoc]

/-! ## Loaded associations -/

mutual

/-- All sources, names and numbers of children in a tree, at any depth, fit. -/
def AssocNode.fits : AssocNode → Bool
  | ⟨name, binding, children⟩ =>
    fitsString name && (fitsNumber binding &&
      (fitsNumber children.length && AssocForest.fitAll children))

def AssocForest.fitAll : List AssocNode → Bool
  | [] => true
  | node :: forest => AssocNode.fits node && AssocForest.fitAll forest

end

theorem AssocForest.fitAll_eq_all (forest : AssocForest) :
    AssocForest.fitAll forest = forest.all AssocNode.fits := by
  induction forest with
  | nil => rfl
  | cons node forest ih => rw [AssocForest.fitAll, ih, List.all_cons]

theorem AssocForest.encodeAll_eq_flatMap (forest : AssocForest) :
    AssocForest.encodeAll forest = forest.flatMap AssocNode.encode := by
  induction forest with
  | nil => rfl
  | cons node forest ih => rw [AssocForest.encodeAll, ih, List.flatMap_cons]

theorem AssocNode.faithful_encode : Faithful AssocNode.encode AssocNode.fits Eq := by
  have hencode (name : String) (binding : Nat) (children : AssocForest) :
      AssocNode.encode ⟨name, binding, children⟩
        = string name ++ (number binding ++ Encoding.list AssocNode.encode children) := by
    rw [AssocNode.encode, AssocForest.encodeAll_eq_flatMap]
    simp only [Encoding.list, List.append_assoc]
  have hfits (name : String) (binding : Nat) (children : AssocForest) :
      AssocNode.fits ⟨name, binding, children⟩
        = (fitsString name && (fitsNumber binding && fitsList AssocNode.fits children)) := by
    rw [AssocNode.fits, AssocForest.fitAll_eq_all]
    rfl
  intro node
  induction node using AssocNode.induction with
  | node name binding children ih =>
    refine .of_eq ?_
    intro other hnode hnode' s t h
    obtain ⟨name', binding', children'⟩ := other
    rw [hfits, Bool.and_eq_true, Bool.and_eq_true] at hnode hnode'
    obtain ⟨hname, hbinding, hchildren⟩ := hnode
    obtain ⟨hname', hbinding', hchildren'⟩ := hnode'
    simp only [hencode, List.append_assoc] at h
    rw [faithful_string _ _ hname hname', faithful_number _ _ hbinding hbinding',
      FaithfulAt.list ih _ hchildren hchildren', List.forall₂_eq_eq_eq] at h
    obtain ⟨rfl, rfl, rfl, -⟩ := h
    rfl

/-! ## Queries -/

/-- All indices and numbers of placeholders in a query, and the lengths of all its lists, texts and
    byte strings, are below `limit`. Parameters, locations and the derived parts of the select
    clause may be of any size. -/
structure Query.Fits (q : Query) : Prop where
  fromRef : q.fromRef.all TableRef.fits
  targets : q.joins.all fun j => j.target.fits
  sources : fitsList Source.fits q.sources
  exprs : ∀ clause, fitsList ClauseExpr.fits (q.clauseExprs clause)
  preloads : fitsList fitsString q.preloads
  assocs : fitsList AssocNode.fits q.assocs
  lock : q.lock.all fitsString

theorem Query.Fits.joins {q : Query} (h : q.Fits) : fitsList Join.fits q.joins := by
  have hons := h.exprs .join
  have htargets := h.targets
  simp only [Query.clauseExprs, fitsList, List.length_map, List.all_map, Bool.and_eq_true,
    List.all_eq_true, Function.comp_apply] at hons htargets ⊢
  refine ⟨hons.1, fun j hj => ?_⟩
  rw [Join.fits, htargets j hj, hons.2 j hj]
  rfl

/-- A clause with one expression at most fits if this does. -/
theorem fits_of_fitsList_toList {α : Type} {fits : α → Bool} {a : Option α}
    (h : fitsList fits a.toList) : a.all fits := by
  cases a with
  | none => rfl
  | some a =>
    rw [fitsList, Bool.and_eq_true] at h
    simpa using h.2

theorem Join.forall₂_iff {js js' : List Join} :
    List.Forall₂ (fun j j' : Join => j.head = j'.head ∧ j.on.Alike j'.on) js js' ↔
      js.map Join.head = js'.map Join.head ∧
        List.Forall₂ ClauseExpr.Alike (js.map (·.on)) (js'.map (·.on)) := by
  rw [forall₂_and_iff, ← List.forall₂_eq_eq_eq, List.forall₂_map_left_iff,
    List.forall₂_map_right_iff, List.forall₂_map_left_iff, List.forall₂_map_right_iff]

/-- Clauses with one expression at most are told apart up to alike expressions. -/
theorem ClauseExpr.optional_append_iff {e e' : Option ClauseExpr}
    (h : fitsList ClauseExpr.fits e.toList) (h' : fitsList ClauseExpr.fits e'.toList)
    (s t : List UInt8) :
    optional ClauseExpr.encode e ++ s = optional ClauseExpr.encode e' ++ t ↔
      List.Forall₂ ClauseExpr.Alike e.toList e'.toList ∧ s = t :=
  ClauseExpr.faithful_encode.optional e e' (fits_of_fitsList_toList h) (fits_of_fitsList_toList h')
    s t

theorem Query.clauseExprs_select (q : Query) :
    q.clauseExprs .select = (q.select.map (·.expr)).toList :=
  Option.toList_map.symm

/-- The parts of a query, each by the encoding that is known to be faithful. -/
theorem Query.encodedParts_eq (q : Query) : q.encodedParts =
    [0x01 :: TableRef.encodeOptional q.fromRef,
     0x02 :: list Join.encode q.joins,
     0x03 :: list Source.encode q.sources,
     0x04 :: optional ClauseExpr.encode (q.select.map (·.expr)),
     0x05 :: list ClauseExpr.encode (q.clauseExprs .distinct),
     0x06 :: list ClauseExpr.encode (q.clauseExprs .filter),
     0x07 :: list ClauseExpr.encode (q.clauseExprs .groupBy),
     0x08 :: list ClauseExpr.encode (q.clauseExprs .having),
     0x09 :: list ClauseExpr.encode (q.clauseExprs .orderBy),
     0x0a :: optional ClauseExpr.encode q.limit,
     0x0b :: optional ClauseExpr.encode q.offset,
     0x0c :: list Encoding.string q.preloads,
     0x0d :: list AssocNode.encode q.assocs,
     0x0e :: optional Encoding.string q.lock] := by
  have hselect : optional (fun s : Select => s.expr.encode) q.select
      = optional ClauseExpr.encode (q.select.map (·.expr)) := by
    cases q.select <;> rfl
  rw [Query.encodedParts, hselect, AssocForest.encodeAll_eq_flatMap]
  rfl

/-- The bytes of a query stay as they are when those of each expression do. -/
theorem Query.encode_mapExprs {f : Clause → Nat → ClauseExpr → ClauseExpr}
    (hf : ∀ clause i e, (f clause i e).encode = e.encode) (q : Query) :
    (q.mapExprs f).encode = q.encode := by
  have hlist {α : Type} {encode : α → List UInt8} {g : Nat → α → α}
      (hg : ∀ i x, encode (g i x) = encode x) (xs : List α) :
      Encoding.list encode (xs.mapIdx g) = Encoding.list encode xs := by
    have hmap : (xs.mapIdx g).map encode = xs.map encode :=
      List.ext_getElem? fun i => by simp [hg, Option.map_map, Function.comp_def]
    rw [Encoding.list, Encoding.list, List.length_mapIdx, List.flatMap_def, hmap, List.flatMap_def]
  have hoptional {α : Type} {encode : α → List UInt8} {g : α → α}
      (hg : ∀ x, encode (g x) = encode x) (x? : Option α) :
      Encoding.optional encode (x?.map g) = Encoding.optional encode x? := by
    cases x? with
    | none => rfl
    | some x => exact congrArg (0x01 :: ·) (hg x)
  have hjoin (i : Nat) (j : Join) :
      ({ j with on := f .join i j.on } : Join).encode = j.encode :=
    congrArg (j.kind.encode ++ j.target.encode ++ ·) (hf .join i j.on)
  simp only [Query.encode, Query.encodedParts, Query.mapExprs, hlist (hf _), hlist hjoin,
    hoptional (hf _ 0)]
  rw [hoptional fun s => hf .select 0 s.expr]

/-- The bytes of a query can be told from what follows, and are those of the queries alike to
    it. -/
theorem Query.encode_append_iff {p q : Query} (hp : p.Fits) (hq : q.Fits) (s t : List UInt8) :
    p.encode ++ s = q.encode ++ t ↔ p.Alike q ∧ s = t := by
  have hclause (clause : Clause) := ClauseExpr.faithful_encode.list (p.clauseExprs clause)
    (q.clauseExprs clause) (hp.exprs clause) (hq.exprs clause)
  have hfrom := TableRef.faithful_encodeOptional p.fromRef q.fromRef hp.fromRef hq.fromRef
  have hjoins := Join.faithful_encode.list p.joins q.joins hp.joins hq.joins
  have hsources := Source.faithful_encode.list_eq p.sources q.sources hp.sources hq.sources
  have hselect := ClauseExpr.optional_append_iff (p.clauseExprs_select ▸ hp.exprs .select)
    (q.clauseExprs_select ▸ hq.exprs .select)
  have hlimit := ClauseExpr.optional_append_iff (hp.exprs .limit) (hq.exprs .limit)
  have hoffset := ClauseExpr.optional_append_iff (hp.exprs .offset) (hq.exprs .offset)
  have hpreloads := faithful_string.list_eq p.preloads q.preloads hp.preloads hq.preloads
  have hassocs := AssocNode.faithful_encode.list_eq p.assocs q.assocs hp.assocs hq.assocs
  have hlock := faithful_string.optional_eq p.lock q.lock hp.lock hq.lock
  simp only [Query.encode, Query.encodedParts_eq, List.flatten_cons, List.flatten_nil,
    List.append_nil, List.cons_append, List.append_assoc]
  -- Part by part: the number of the part is the same, and the part can be told from the others.
  rw [List.append_cancel_left_eq,
    List.cons_inj_right, hfrom, List.cons_inj_right, hjoins, Join.forall₂_iff,
    List.cons_inj_right, hsources, List.cons_inj_right, hselect,
    List.cons_inj_right, hclause, List.cons_inj_right, hclause, List.cons_inj_right, hclause,
    List.cons_inj_right, hclause, List.cons_inj_right, hclause,
    List.cons_inj_right, hlimit, List.cons_inj_right, hoffset, List.cons_inj_right, hpreloads,
    List.cons_inj_right, hassocs, List.cons_inj_right, hlock, ← Query.clauseExprs_select,
    ← Query.clauseExprs_select]
  constructor
  · rintro ⟨hfrom, ⟨hheads, hons⟩, hsources, hselect, hdistincts, hfilters, hgroupings, hhavings,
      horderings, hlimit, hoffset, hpreloads, hassocs, hlock, hrest⟩
    refine ⟨⟨hfrom, hheads, hsources, fun clause => ?_, hpreloads, hassocs, hlock⟩, hrest⟩
    cases clause <;> assumption
  · rintro ⟨h, hrest⟩
    exact ⟨h.fromRef, ⟨h.joins, h.exprs .join⟩, h.sources, h.exprs .select, h.exprs .distinct,
      h.exprs .filter, h.exprs .groupBy, h.exprs .having, h.exprs .orderBy, h.exprs .limit,
      h.exprs .offset, h.preloads, h.assocs, h.lock, hrest⟩

/-- Two queries whose numbers and lengths fit have the same bytes exactly when they are alike. -/
theorem Query.encode_eq_iff_alike (p q : Query) (hp : p.Fits) (hq : q.Fits) :
    p.encode = q.encode ↔ p.Alike q := by
  have h := Query.encode_append_iff hp hq [] []
  rwa [List.append_nil, List.append_nil, and_iff_left rfl] at h

/-- The number one with one fraction digit. -/
def shortOne : Decimal := { negative := false, mantissa := 10, scale := 1 }

/-- The number one with two fraction digits. -/
def longOne : Decimal := { negative := false, mantissa := 100, scale := 2 }

/-- Posts by their price in a currency, with a limit, as written at some line. -/
def postsAt (price : Decimal) (line : Nat) (count : Value) : Query where
  fromRef := some (.model "post")
  sources := [⟨"posts", some "post"⟩]
  filters := [{
    expr := .eq (.field 0 "price") (.literal (.list [.decimal price, .text "EUR"]))
    location := { line } }]
  limit := some { expr := .placeholder 0, params := [(0, ⟨count, .plain .integer⟩)] }

/-- Neither the scale of a price nor a location or a parameter changes the bytes. -/
theorem encode_postsAt :
    (postsAt shortOne 3 (.int 5)).Fits ∧ (postsAt longOne 8 (.int 6)).Fits ∧
      (postsAt shortOne 3 (.int 5)).encode = (postsAt longOne 8 (.int 6)).encode := by
  have hsources : fitsList Source.fits [⟨"posts", some "post"⟩] := by decide
  have hfits (price : Decimal) (line : Nat) (count : Value) : (postsAt price line count).Fits :=
    ⟨rfl, rfl, hsources, fun clause => by cases clause <;> exact rfl, rfl, rfl, rfl⟩
  refine ⟨hfits _ _ _, hfits _ _ _, ?_⟩
  rw [Query.encode_eq_iff_alike _ _ (hfits _ _ _) (hfits _ _ _)]
  have hprice : shortOne.SameNumber longOne := by decide
  refine ⟨rfl, rfl, rfl, fun clause => ?_, rfl, rfl, rfl⟩
  cases clause with
  | filter =>
    have hlist : Value.Alike (.list [.decimal shortOne, .text "EUR"])
        (.list [.decimal longOne, .text "EUR"]) :=
      .list (.cons (.decimal hprice) (.cons (.same _) .nil))
    exact .cons (.node _ (.cons (.atom (.same _)) (.cons (.atom (.literal hlist)) .nil))) .nil
  | limit => exact .cons (.atom (.same _)) .nil
  | _ => exact .nil

end QueryPlan
