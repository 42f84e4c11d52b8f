import SceneBridge.Object.Class

/-!
# Classes of registries and of metadata

Registries, constructors and their tables, converters, and what reflection makes.
-/

namespace SceneBridge.Library

open Param Member

/-! ## Registries -/

/-- The parameter for a name. -/
def name : Param := (needed "name").noted "str"

def registry : ClassInfo :=
  { ClassInfo.named "BaseRegistry" "common.base_registry" [.registry] with
    doc := some "レジストリの基底クラス。"
    members := [
      ("add", ofOperation (.registry .add) [name, (needed "obj").noted "T"] "T"
        "`obj` を `name` で登録して返す。"),
      ("register", ofOperation (.registry .register) [(optional "name" .null).noted "str | None"]
        "Callable[[Any], Any]" "クラス/関数をレジストリに登録するデコレータ。"),
      ("get", ofOperation (.registry .get) [name] "T"
        "登録済みの値を取得（未登録は `KeyError`）。"),
      ("lookup", ofOperation (.registry .lookup) [name] "T | None"
        "登録済みの値を取得（未登録や不正キーは None）。"),
      ("list_all", ofOperation (.registry .keys) [] "list[str]"
        "登録されているすべての名前を取得（未ソート）。"),
      ("is_registered", ofOperation (.registry .has) [name] "bool" none),
      ("unregister", ofOperation (.registry .remove) [name] "None"
        "レジストリから削除（名前が存在しない場合は無視）。"),
      ("clear", ofOperation (.registry .clear) [] "None" none),
      ("values", ofOperation (.registry .values) [] "Iterator[T]" none),
      ("registry", reader (.registry .copy) "レジストリの読み取り専用コピー")]
    init := some ⟨[], some (.text "None"), .operation (.registry .make), none⟩ }

/-! ## Constructors -/

def constructor : ClassInfo :=
  { ClassInfo.named "TypeConstructor" "" [.constructor] with
    annotations := [("name", .text "str"), ("factory", .text "Callable[..., Any]"),
      ("layout", .text "Layout"), ("value_class", .text "type | None")]
    members := [
      ("layout", .constant (.text "positional")),
      ("value_class", .constant .null),
      ("accepts", ofOperation (.constructor .accepts) [(needed "value").noted "Any"] "bool"
        "既に構築済みの値か。"),
      ("construct", ofOperation (.constructor .construct) [(rest "args").noted "Any"] "Any"
        "変換済み引数で位置構築する（ジェネリック用）。"),
      ("from_components", ofOperation (.constructor .fromComponents)
        [(needed "components").noted "Sequence[int | float]"] "Any" none),
      ("from_value", ofOperation (.constructor .fromValue) [(needed "value").noted "Any"] "Any"
        "文字列/数値列から構築する。\n
例外:
- ValueError: 数値成分へ変換できない場合（text レイアウトを除く）。")]
    init := some ⟨[name, needed "factory", optional "layout" (.text "positional"),
      optional "value_class" .null], some (.text "None"), .operation (.registry .make), none⟩ }

def constructorTable : ClassInfo :=
  { ClassInfo.named "TypeConstructorRegistry" "engine.convert.constructors" [.constructorTable, .registry] with
    doc := some "型名 → `TypeConstructor`。"
    members := [
      ("define", ofOperation (.constructor .define)
        [name, (needed "factory").noted "Callable[..., Any]",
          ((optional "layout" (.text "positional")).noted "Layout").byName,
          ((optional "value_class" .null).noted "type | None").byName] "TypeConstructor"
        "コンストラクタを登録して返す。"),
      ("value_type", ofOperation (.constructor .valueType)
        [(optional "name" .null).noted "str | None",
          ((optional "layout" (.text "positional")).noted "Layout").byName,
          ((optional "factory" .null).noted "str | None").byName] "Callable[[type], type]"
        "クラスを値型として登録するデコレータ。\n
- `factory` はクラス属性名（例: `\"from_array\"`）。省略時はクラス自身。"),
      ("name_for", ofOperation (.constructor .nameFor) [(needed "klass").noted "type"] "str | None"
        "値クラスから登録名を逆引きする（未登録は None）。"),
      ("unregister", ofOperation (.constructor .remove) [name] "None"
        "レジストリから削除（名前が存在しない場合は無視）。"),
      ("clear", ofOperation (.constructor .clear) [] "None" none)]
    init := some ⟨[], some (.text "None"), .operation (.constructor .makeTable), none⟩ }

def converter : ClassInfo :=
  { ClassInfo.named "ValueConverter" "engine.convert.value_converter" [.converter] with
    doc := some "`convert(value, type)` を提供する。コンストラクタ表は注入可能。"
    members := [
      ("registry", reader (.constructor .converterRegistry) none),
      ("convert", ofOperation (.constructor .convert)
        [(needed "value").noted "Any", (needed "type_").noted "TypeDescriptor | str"] "Any"
        "`value` を `type_` の実値へ変換する。\n
例外:
- ConversionError: union のすべての候補で失敗した場合のみ。")]
    init := some ⟨[(optional "registry" .null).noted "TypeConstructorRegistry | None"],
      some (.text "None"), .operation (.constructor .makeConverter), none⟩ }

/-! ## Metadata -/

def cache : ClassInfo :=
  { ClassInfo.named "ReflectionCache" "engine.reflect.cache" [.cache] with
    doc := some "クラス → `ClassMetadata` のキャッシュ（クラス同一性キー、追い出しなし）。"
    members := [
      ("metadata_for", ofOperation (.reflection .metadataFor) [(needed "cls").noted "type"]
        "ClassMetadata"
        "`cls` のメタデータを返す（初回のみ抽出し、以降は同一インスタンス）。\n
例外:
- TypeError: クラス以外を渡した場合。
- ReflectionError: プローブを既定構築できない場合（再試行しない）。"),
      ("clear", ofOperation (.reflection .clear) [] "None" "キャッシュをクリア（テスト用途）。"),
      ("runtime_kind", ofOperation (.reflection .kind) [(needed "value").noted "Any"] "str"
        "実値の基本種別名（ドキュメントが無い場合の型）。")]
    init := some ⟨[(optional "value_types" .null).noted "TypeConstructorRegistry | None"],
      some (.text "None"), .operation (.reflection .makeCache), none⟩ }

def metadata : ClassInfo :=
  { ClassInfo.named "ClassMetadata" "" [.metadata] with
    members := [("name", reader (.reflection .metadataName) none)] }

def propertyInfo : ClassInfo :=
  ClassInfo.named "PropertyDescriptor" "" [.propertyInfo]

def methodInfo : ClassInfo :=
  ClassInfo.named "MethodDescriptor" "" [.methodInfo]

def computedInfo : ClassInfo :=
  ClassInfo.named "ComputedDescriptor" "" [.computedInfo]

def eventInfo : ClassInfo :=
  ClassInfo.named "EventDescriptor" "" [.eventInfo]

def staticInfo : ClassInfo :=
  ClassInfo.named "StaticDescriptor" "" [.staticInfo]

end SceneBridge.Library
