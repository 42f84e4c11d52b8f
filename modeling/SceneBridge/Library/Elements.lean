import SceneBridge.Object.Class

/-!
# Classes of elements and adapters

Elements, adapters, their definitions and factories, and components.
-/

namespace SceneBridge.Library

open Param Member

/-! ## Elements -/

/-- Where elements are defined. -/
def elementHome : String := "engine.ui.element"

def elementEvent : ClassInfo :=
  { ClassInfo.named "ElementEvent" elementHome [.elementEvent] with
    doc := some "要素から配送されるイベント。"
    annotations := [("type", .text "str"), ("detail", .text "Any"), ("target", .text "Any"),
      ("bubbles", .text "bool")]
    members := [("detail", .constant .null), ("target", .constant .null),
      ("bubbles", .constant (.bool true))]
    init := some ⟨[(needed "type").noted "str", (optional "detail" .null).noted "Any",
      (optional "target" .null).noted "Any", (optional "bubbles" (.bool true)).noted "bool"],
      some (.text "None"), .operation (.element .makeEvent), none⟩ }

/-- A parameter for a text. -/
def textParam (name : String) : Param := (needed name).noted "str"

/-- The parameter for changes. -/
def changed : Param := (needed "changed").noted "Mapping[str, Any]"

/-- The members of every element. -/
def elementMembers : List (String × Member) := [
  ("declare_property", ofOperation (.element .declare)
    [textParam "name", ((optional "attribute" (.bool true)).noted "bool | str").byName] "None"
    "プロパティを宣言する（`attribute=True` なら小文字名の属性と反映）。"),
  ("declared_properties", ofOperation (.element .declared) [] "tuple[str, ...]" none),
  ("get_property", ofOperation (.element .property) [textParam "name"] "Any" none),
  ("set_property", ofOperation (.element .setProperty) [textParam "name", (needed "value").noted "Any"]
    "None" "値を保存し、変化があれば更新を要求する。"),
  ("request_update", ofOperation (.element .requestUpdate)
    [(optional "name" .null).noted "str | None", (optional "old_value" .null).noted "Any"] "None"
    none),
  ("update_pending", reader (.element .isPending) none),
  ("has_updated", reader (.element .hasUpdated) none),
  ("perform_update", ofOperation (.element .performUpdate) [] "bool"
    "蓄積された変更を 1 バッチとして配送する（変更なしなら False）。"),
  ("flush", ofOperation (.element .flush) [(optional "max_rounds" (.int 16)).noted "int"] "int"
    "変更が尽きるまで `perform_update()` を繰り返し、配送したバッチ数を返す。"),
  ("update_complete", reader (.element .complete)
    "保留中の変更を配送し切ったか（読むと `flush()` を行う）。\n
`update()` が変更を出し続ける場合は `flush()` の上限で打ち切られ、False を返す。"),
  ("update", ofOperation (.element .hook) [changed] "None" none),
  ("first_updated", ofOperation (.element .hook) [changed] "None" none),
  ("updated", ofOperation (.element .hook) [changed] "None" none),
  ("connected_callback", ofOperation (.element .connected) [] "None" none),
  ("disconnected_callback", ofOperation (.element .disconnected) [] "None" none),
  ("is_connected", reader (.element .isConnected) none),
  ("set_attribute", ofOperation (.element .setAttribute)
    [textParam "name", (needed "value").noted "Any"] "None" none),
  ("get_attribute", ofOperation (.element .attribute_) [textParam "name"] "str | None" none),
  ("has_attribute", ofOperation (.element .hasAttribute) [textParam "name"] "bool" none),
  ("remove_attribute", ofOperation (.element .removeAttribute) [textParam "name"] "None" none),
  ("add_event_listener", ofOperation (.element .addListener)
    [textParam "event_type", (needed "listener").noted "EventListener"] "None" none),
  ("remove_event_listener", ofOperation (.element .removeListener)
    [textParam "event_type", (needed "listener").noted "EventListener"] "None" none),
  ("dispatch_event", ofOperation (.element .dispatch)
    [(needed "event").noted "ElementEvent | str", (optional "detail" .null).noted "Any"]
    "ElementEvent" none),
  ("subscribe", ofOperation (.element .subscribe) [(needed "listener").noted "Subscriber"] "None"
    none),
  ("unsubscribe", ofOperation (.element .unsubscribe) [(needed "listener").noted "Subscriber"]
    "None" none)]

def element : ClassInfo :=
  { ClassInfo.named "ReactiveElement" elementHome [.element] with
    doc := some "属性反映とバッチ更新を持つ要素の基底。"
    members := elementMembers
    init := some ⟨[], some (.text "None"), .operation (.element .make), none⟩ }

/-- An element that writes its updates to the log. -/
def recorder : ClassInfo :=
  { ClassInfo.named "RecorderElement" "" [.recorder, .element] with
    members := ["update", "first_updated", "updated"].map fun hook =>
      (hook, ofOperation (.element (.logHook hook)) [needed "changed"] none none) }

/-! ## Adapters -/

def adapter : ClassInfo :=
  { ClassInfo.named "TargetAdapter" "" [.adapter, .element] with
    doc := some "ターゲット 1 インスタンスを専有し、属性/メソッド/イベントを橋渡しする要素。"
    members := [
      ("definition", reader (.adapter .definition) none),
      ("target", reader (.adapter .target) "専有しているターゲット（破棄後は None）。"),
      ("state", reader (.adapter .state) none),
      ("get_property", ofOperation (.adapter .property) [textParam "name"] "Any" none),
      ("set_property", ofOperation (.adapter .setProperty)
        [textParam "name", (needed "value").noted "Any"] "None" none),
      ("request_update", ofOperation (.adapter .requestUpdate)
        [(optional "name" .null).noted "str | None", (optional "old_value" .null).noted "Any"]
        "None" none),
      ("update", ofOperation (.adapter .update) [changed] "None"
        "宣言プロパティを変換してターゲットへ反映する（計算プロパティは対象外）。\n
例外:
- ConversionError: union の全候補が失敗した場合。バッチ内の残りのプロパティを
  反映し終えてから、最初の失敗を送出する。"),
      ("connected_callback", ofOperation (.adapter .connected) [] "None" none),
      ("disconnected_callback", ofOperation (.adapter .disconnected) [] "None" none),
      ("dispose", ofOperation (.adapter .dispose) [] "None"
        "イベント購読を解除し、ターゲットを解放する（二重呼び出しは no-op）。")]
    init := some ⟨[(needed "definition").noted "AdapterDefinition"], some (.text "None"),
      .operation (.adapter .make), none⟩ }

def definition : ClassInfo :=
  { ClassInfo.named "AdapterDefinition" "" [.definition] with
    doc := some "1 ターゲットクラス分のアダプタ定義（`create()` でインスタンス化）。"
    members := [
      ("name", reader (.adapter .definitionName) none),
      ("has", ofOperation (.adapter .has) [(needed "capability").noted "Capability"] "bool" none),
      ("create", ofOperation (.adapter .create) [(namedRest "attributes").noted "Any"]
        "'TargetAdapter'" "アダプタを生成し、与えられた属性を文字列として設定する。")] }

def binding : ClassInfo :=
  { ClassInfo.named "MethodBinding" "" [.binding] with
    doc := some "メソッド転送の方針（build 時に決定）。" }

def factory : ClassInfo :=
  { ClassInfo.named "AdapterFactory" "engine.ui.adapter" [.factory] with
    doc := some "ターゲットクラス → `AdapterDefinition`（クラスごとにメモ化）。"
    members := [
      ("build", ofOperation (.adapter .build) [(needed "cls").noted "type"] "AdapterDefinition"
        "`cls` のアダプタ定義を返す。\n
例外:
- ReflectionError: メタデータ抽出（プローブ構築）に失敗した場合。")]
    init := some ⟨[(optional "cache" .null).noted "ReflectionCache | None",
      (optional "converter" .null).noted "ValueConverter | None",
      ((optional "event_prefix" .null).noted "str | None").byName], some (.text "None"),
      .operation (.adapter .makeFactory), none⟩ }

def component : ClassInfo :=
  ClassInfo.named "Component" "" [.component]

end SceneBridge.Library
