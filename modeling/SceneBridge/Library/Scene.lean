import SceneBridge.Object.Class

/-!
# Classes of scenes

Sources of events, nodes, cameras, lights, geometries and materials, with the members
that they show and what is said about them.
-/

namespace SceneBridge.Library

open Param Member

/-! ## Events -/

def sceneEvent : ClassInfo :=
  { ClassInfo.named "SceneEvent" "scene.events" [.sceneEvent] with
    annotations := [("type", .text "str"), ("target", .text "Any"), ("data", .text "dict[str, Any]")]
    members := [("target", .constant .null)]
    init := some ⟨[(needed "type").noted "str", (optional "target" .null).noted "Any",
      (optional "data" .null).noted "dict[str, Any]"], some (.text "None"),
      .operation (.event .makeEvent), none⟩ }

/-- Registers a listener. -/
def onRoutine : Member :=
  ofOperation (.event .on) [needed "event_type", needed "listener"] none
    "リスナーを登録する（同一リスナーの重複登録は無視）。\n
@param {string} event_type イベント名
@param {Function} listener `SceneEvent` を受け取る関数
@returns {void}"

/-- Takes a listener off. -/
def offRoutine : Member :=
  ofOperation (.event .off) [needed "event_type", needed "listener"] none
    "リスナーを解除する（未登録なら何もしない）。\n
@param {string} event_type イベント名
@param {Function} listener 登録済みのリスナー
@returns {void}"

def dispatcher : ClassInfo :=
  { ClassInfo.named "EventDispatcher" "scene.events" [.dispatcher] with
    doc := some "名前付きイベントの購読と発火。"
    members := [
      ("on", onRoutine),
      ("off", offRoutine),
      ("has_listener", ofOperation (.event .has) [needed "event_type", needed "listener"] none
        "@returns {boolean} リスナーが登録済みか"),
      ("emit", ofOperation (.event .emit) [needed "event_type", namedRest "data"] none
        "イベントを発火する。\n
@param {string} event_type イベント名
@returns {SceneEvent} 配送したイベント"),
      ("add_event_listener", onRoutine),
      ("remove_event_listener", offRoutine)]
    init := some ⟨[], some (.text "None"), .operation (.event .make), none⟩ }

/-! ## Nodes -/

/-- Where nodes are defined. -/
def nodeHome : String := "scene.objects"

/-- The place of the usual upward direction. -/
def upPlace : Nat := 0

def node : ClassInfo :=
  { ClassInfo.named "Object3D" nodeHome [.node, .dispatcher] with
    doc := some "シーングラフのノード。\n
@event {SceneEvent} added 親ノードへ追加されたとき
@event {SceneEvent} removed 親ノードから外されたとき"
    members := [
      ("DEFAULT_UP", .constant (.object upPlace)),
      ("DEFAULT_MATRIX_AUTO_UPDATE", .constant (.bool true)),
      ("parent", reader (.node .parent) "@type {Object3D} 親ノード（読み取り専用）"),
      ("children", reader (.node .children) "@type {Array.<Object3D>} 子ノード（読み取り専用）"),
      ("add", ofOperation (.node .add) [rest "objects"] none
        "子ノードを追加する（既存の親からは外す）。\n
@param {Object3D} object 追加するノード
@returns {this}"),
      ("remove", ofOperation (.node .remove) [rest "objects"] none
        "子ノードを外す（子でなければ無視）。\n
@param {Object3D} object 外すノード
@returns {this}"),
      ("remove_from_parent", ofOperation (.node .removeFromParent) [] none "@returns {this}"),
      ("clear", ofOperation (.node .clear) [] none "@returns {this}"),
      ("traverse", ofOperation (.node .traverse)
        [(needed "callback").noted "Callable[['Object3D'], None]"] none
        "自身と全子孫へ深さ優先で `callback` を適用する。\n
@param {Function} callback ノードを受け取る関数
@returns {void}"),
      ("iter_nodes", ofOperation (.node .nodes) [] "Iterator['Object3D']" none),
      ("get_object_by_name", ofOperation (.node .find) [needed "name"] none
        "名前が一致する最初の子孫（自身を含む）を返す。\n
@param {string} name 探す名前
@returns {Object3D|undefined} 見つからなければ None"),
      ("translate_on_axis", ofOperation (.node .translateOnAxis) [needed "axis", needed "distance"] none
        "ローカル軸に沿って移動する。\n
@param {Vector3} axis 正規化済みの軸
@param {number} distance 移動量
@returns {this}"),
      ("translate_x", translation 0),
      ("translate_y", translation 1),
      ("translate_z", translation 2),
      ("rotate_x", rotation 0),
      ("rotate_y", rotation 1),
      ("rotate_z", rotation 2),
      ("matrix", reader (.node .matrix) "@type {Matrix4} ローカル変換行列"),
      ("matrix_world", reader (.node .worldMatrix) "@type {Matrix4} ワールド変換行列"),
      ("world_direction", reader (.node .direction)
        "@type {Vector3} ワールド空間での +Z 方向（正規化済み）"),
      ("get_world_position", ofOperation (.node .worldPosition) [] none
        "@returns {Vector3} ワールド座標での位置"),
      ("local_to_world", ofOperation (.node .toWorld) [needed "vector"] none
        "@param {Vector3} vector ローカル座標
@returns {Vector3} ワールド座標")]
    notes := [
      ("DEFAULT_UP", "@type {Vector3} 新規ノードの up ベクトル"),
      ("DEFAULT_MATRIX_AUTO_UPDATE", "@type {boolean} 新規ノードの行列自動更新フラグ"),
      ("name", "@type {string} ノード名"),
      ("position", "@type {Vector3} ローカル位置"),
      ("rotation", "@type {Euler} ローカル回転（ラジアン）"),
      ("scale", "@type {Vector3} ローカル拡縮"),
      ("up", "@type {Vector3} look 方向の基準となる up ベクトル"),
      ("visible", "@type {boolean} 描画対象か"),
      ("matrix_auto_update", "@type {boolean} 行列を毎フレーム再計算するか"),
      ("render_order", "@type {number} 描画順の上書き"),
      ("user_data", "@type {Object} 任意の付帯データ")]
    init := some ⟨[], some (.text "None"), .operation (.node .make), none⟩ }
where
  /-- Moves along one axis. -/
  translation (axis : Nat) : Member :=
    ofOperation (.node (.translate axis)) [needed "distance"] none
      "@param {number} distance 移動量
@returns {this}"
  /-- Turns about one axis. -/
  rotation (axis : Nat) : Member :=
    ofOperation (.node (.rotate axis)) [needed "angle"] none
      "@param {number} angle 角度（ラジアン）
@returns {this}"

def group : ClassInfo :=
  { ClassInfo.named "Group" nodeHome [.group, .node, .dispatcher] with
    doc := some "子ノードをまとめるだけのノード。" }

def scene : ClassInfo :=
  { ClassInfo.named "Scene" nodeHome [.scene, .node, .dispatcher] with
    doc := some "シーンのルート。"
    notes := [
      ("background", "@type {Color|undefined} 背景色（None は透明）"),
      ("background_intensity", "@type {number} 背景の明るさ係数"),
      ("fog", "@type {{color: Color, near: number, far: number}} 線形フォグの設定")]
    init := some ⟨[], some (.text "None"), .operation (.node .makeScene), none⟩ }

def mesh : ClassInfo :=
  { ClassInfo.named "Mesh" nodeHome [.mesh, .node, .dispatcher] with
    doc := some "ジオメトリとマテリアルの組。"
    members := [
      ("world_vertices", ofOperation (.node .worldVertices) [] none
        "@returns {Object} ワールド座標の頂点配列 (N, 3)")]
    notes := [
      ("geometry", "@type {BufferGeometry} 形状"),
      ("material", "@type {Material} 材質"),
      ("cast_shadow", "@type {boolean} 影を落とすか"),
      ("receive_shadow", "@type {boolean} 影を受けるか")]
    init := some ⟨[(optional "geometry" .null).noted "BufferGeometry | None",
      (optional "material" .null).noted "Material | None"], some (.text "None"),
      .operation (.node .makeMesh), none⟩ }

/-! ## Cameras -/

/-- A parameter for a number. -/
def number (name : String) (default : Float) : Param :=
  (optional name (.float default)).noted "float"

def camera : ClassInfo :=
  { ClassInfo.named "Camera" nodeHome [.camera, .node, .dispatcher] with
    doc := some "カメラの基底。"
    members := [
      ("projection_matrix", reader (.camera .blankProjection) "@type {Matrix4} 射影行列"),
      ("update_projection_matrix", ofOperation (.camera .announceProjection) [] none
        "射影パラメータ変更後に呼ぶ（行列は都度計算のため通知のみ）。\n
@returns {void}")]
    notes := [
      ("near", "@type {number} 近クリップ面"),
      ("far", "@type {number} 遠クリップ面"),
      ("zoom", "@type {number} ズーム係数")]
    init := some ⟨[], some (.text "None"), .operation (.camera .make), none⟩ }

def perspective : ClassInfo :=
  { ClassInfo.named "PerspectiveCamera" nodeHome [.perspective, .camera, .node, .dispatcher] with
    doc := some "透視投影カメラ。\n
@event {SceneEvent} projection 射影パラメータが更新されたとき"
    members := [
      ("fov", .property (.camera .fov) (.camera .setFov) "@type {number} 垂直視野角（度）"),
      ("projection_matrix", reader (.camera .perspective) "@type {Matrix4} 透視射影行列")]
    notes := [("aspect", "@type {number} 縦横比（幅/高さ）")]
    init := some ⟨[number "fov" 50, number "aspect" 1, number "near" 0.1, number "far" 2000],
      some (.text "None"), .operation (.camera .makePerspective), none⟩ }

def orthographic : ClassInfo :=
  { ClassInfo.named "OrthographicCamera" nodeHome
      [.orthographic, .camera, .node, .dispatcher] with
    doc := some "平行投影カメラ。\n
@event {SceneEvent} projection 射影パラメータが更新されたとき"
    members := [("projection_matrix", reader (.camera .orthographic) "@type {Matrix4} 平行射影行列")]
    notes := [
      ("left", "@type {number} 左クリップ面"),
      ("right", "@type {number} 右クリップ面"),
      ("top", "@type {number} 上クリップ面"),
      ("bottom", "@type {number} 下クリップ面")]
    init := some ⟨[number "left" (-1), number "right" 1, number "top" 1, number "bottom" (-1),
      number "near" 0.1, number "far" 2000], some (.text "None"),
      .operation (.camera .makeOrthographic), none⟩ }

/-! ## Lights -/

/-- The colour and the strength of a light. -/
def lightParams : List Param :=
  [(optional "color" (.int 0xFFFFFF)).noted "int | str", number "intensity" 1]

def light : ClassInfo :=
  { ClassInfo.named "Light" nodeHome [.light, .node, .dispatcher] with
    doc := some "ライトの基底。"
    members := [("dispose", ofOperation (.node .disposeLight) [] none "@returns {void}")]
    notes := [("color", "@type {Color} 光の色"), ("intensity", "@type {number} 強さ")]
    init := some ⟨lightParams, some (.text "None"), .operation (.node .makeLight), none⟩ }

def ambient : ClassInfo :=
  { ClassInfo.named "AmbientLight" nodeHome [.ambient, .light, .node, .dispatcher] with
    doc := some "環境光。" }

def directional : ClassInfo :=
  { ClassInfo.named "DirectionalLight" nodeHome [.directional, .light, .node, .dispatcher] with
    doc := some "平行光源（+Y 上方から原点へ）。\n
@event {SceneEvent} dispose 破棄されたとき"
    notes := [("cast_shadow", "@type {boolean} 影を落とすか")]
    init := some ⟨lightParams, some (.text "None"), .operation (.node .makeDirectional), none⟩ }

def point : ClassInfo :=
  { ClassInfo.named "PointLight" nodeHome [.point, .light, .node, .dispatcher] with
    doc := some "点光源。"
    notes := [
      ("distance", "@type {number} 到達距離（0 は無限）"),
      ("decay", "@type {number} 距離減衰の指数")]
    init := some ⟨lightParams ++ [number "distance" 0, number "decay" 2], some (.text "None"),
      .operation (.node .makePoint), none⟩ }

def spot : ClassInfo :=
  { ClassInfo.named "SpotLight" nodeHome [.spot, .point, .light, .node, .dispatcher] with
    doc := some "スポットライト。"
    notes := [
      ("angle", "@type {number} 円錐の半角（ラジアン）"),
      ("penumbra", "@type {number} 縁のぼかし（0–1）")]
    init := some ⟨lightParams ++ [number "distance" 0, number "angle" 1.0471975511965976,
      number "penumbra" 0, number "decay" 2], some (.text "None"),
      .operation (.node .makeSpot), none⟩ }

/-! ## Geometries -/

/-- Where geometries are defined. -/
def geometryHome : String := "scene.geometries"

/-- A parameter for a count. -/
def count (name : String) (default : Int) : Param :=
  (optional name (.int default)).noted "int"

def geometry : ClassInfo :=
  { ClassInfo.named "BufferGeometry" geometryHome [.geometry, .dispatcher] with
    doc := some "頂点配列を持つ形状の基底。\n
@event {SceneEvent} dispose 破棄されたとき"
    members := [
      ("positions", reader (.geometry .positions) "@type {Object} 頂点配列 (N, 3)"),
      ("vertex_count", ofOperation (.geometry .count) [] none "@returns {number} 頂点数"),
      ("bounding_box", ofOperation (.geometry .bounds) [] none
        "@returns {Array.<Vector3>} (min, max) の 2 点"),
      ("dispose", ofOperation (.geometry .dispose) [] none "@returns {void}")]
    notes := [("name", "@type {string} 形状名"), ("parameters", "@type {Object} 生成パラメータ")]
    init := some ⟨[], some (.text "None"), .operation (.geometry .make), none⟩ }

def box : ClassInfo :=
  { ClassInfo.named "BoxGeometry" geometryHome [.box, .geometry, .dispatcher] with
    notes := [("parameters", "@type {{width: number, height: number, depth: number}} 各辺の長さ")]
    init := some ⟨[number "width" 1, number "height" 1, number "depth" 1], some (.text "None"),
      .operation (.geometry .makeBox), none⟩ }

def plane : ClassInfo :=
  { ClassInfo.named "PlaneGeometry" geometryHome [.plane, .geometry, .dispatcher] with
    notes := [("parameters", "@type {{width: number, height: number, width_segments: number, height_segments: number}} 寸法と分割数")]
    init := some ⟨[number "width" 1, number "height" 1, count "width_segments" 1,
      count "height_segments" 1], some (.text "None"), .operation (.geometry .makePlane), none⟩ }

def sphere : ClassInfo :=
  { ClassInfo.named "SphereGeometry" geometryHome [.sphere, .geometry, .dispatcher] with
    notes := [("parameters",
      "@type {{radius: number, width_segments: number, height_segments: number}} 半径と分割数")]
    init := some ⟨[number "radius" 1, count "width_segments" 32, count "height_segments" 16],
      some (.text "None"), .operation (.geometry .makeSphere), none⟩ }

def cylinder : ClassInfo :=
  { ClassInfo.named "CylinderGeometry" geometryHome [.cylinder, .geometry, .dispatcher] with
    notes := [("parameters", "@type {{radius_top: number, radius_bottom: number, height: number, radial_segments: number}} 寸法と分割数")]
    init := some ⟨[number "radius_top" 1, number "radius_bottom" 1, number "height" 1,
      count "radial_segments" 32], some (.text "None"), .operation (.geometry .makeCylinder), none⟩ }

/-! ## Materials -/

/-- Where materials are defined. -/
def materialHome : String := "scene.materials"

def material : ClassInfo :=
  { ClassInfo.named "Material" materialHome [.material, .dispatcher] with
    doc := some "マテリアルの基底。\n
@event {SceneEvent} dispose 破棄されたとき"
    members := [
      ("FRONT_SIDE", .constant (.int 0)),
      ("BACK_SIDE", .constant (.int 1)),
      ("DOUBLE_SIDE", .constant (.int 2)),
      ("version", reader (.material .version)
        "@type {number} 変更世代（`needs_update` の書き込みで進む）"),
      ("needs_update", .accessor none (some (.operation (.material .markChanged)))
        "@type {boolean} True を書くと再構築を要求する"),
      ("dispose", ofOperation (.material .dispose) [] none "@returns {void}")]
    table := [
      ("FRONT_SIDE", .text "@type {number} 表面のみ描画"),
      ("BACK_SIDE", .text "@type {number} 裏面のみ描画"),
      ("DOUBLE_SIDE", .text "@type {number} 両面を描画"),
      ("side", .record [("type", .text "number"),
        ("description", .text "描画する面（FRONT_SIDE/BACK_SIDE/DOUBLE_SIDE）")])]
    notes := [
      ("name", "@type {string} マテリアル名"),
      ("opacity", "@type {number} 不透明度（0–1）"),
      ("transparent", "@type {boolean} 透過として扱うか"),
      ("visible", "@type {boolean} 描画対象か"),
      ("depth_test", "@type {boolean} 深度テストを行うか")]
    init := some ⟨[], some (.text "None"), .operation (.material .make), none⟩ }

def basic : ClassInfo :=
  { ClassInfo.named "MeshBasicMaterial" materialHome [.basic, .material, .dispatcher] with
    doc := some "ライティングの影響を受けない単色マテリアル。"
    notes := [("color", "@type {Color} 基本色"), ("wireframe", "@type {boolean} ワイヤーフレーム表示")]
    init := some ⟨[], some (.text "None"), .operation (.material .makeBasic), none⟩ }

def standard : ClassInfo :=
  { ClassInfo.named "MeshStandardMaterial" materialHome [.standard, .material, .dispatcher] with
    doc := some "PBR（metalness/roughness）マテリアル。"
    notes := [
      ("color", "@type {Color} 基本色"),
      ("emissive", "@type {Color} 自己発光色"),
      ("roughness", "@type {number} 粗さ（0–1）"),
      ("metalness", "@type {number} 金属度（0–1）"),
      ("wireframe", "@type {boolean} ワイヤーフレーム表示")]
    init := some ⟨[], some (.text "None"), .operation (.material .makeStandard), none⟩ }

def phong : ClassInfo :=
  { ClassInfo.named "MeshPhongMaterial" materialHome [.phong, .material, .dispatcher] with
    doc := some "Phong 反射モデルのマテリアル。"
    notes := [
      ("color", "@type {Color} 基本色"),
      ("specular", "@type {Color} 鏡面反射色"),
      ("shininess", "@type {number} 光沢の鋭さ"),
      ("flat_shading", "@type {boolean} フラットシェーディング")]
    init := some ⟨[], some (.text "None"), .operation (.material .makePhong), none⟩ }

end SceneBridge.Library
