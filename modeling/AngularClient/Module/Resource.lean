import AngularClient.Template.Rendering

namespace AngularClient.Module

def description (margin : String) (docLines : ValuePath) : Piece :=
  .given docLines [
    .lines [margin, margin ++ " @description", margin],
    .each "line" docLines [.lines [margin ++ " "], .slot ["line"] []]]

def parameters (margin : String) (params : ValuePath) : Piece :=
  .each "param" params [.lines [margin ++ " @param "], .slot ["param"] []]

def modelTag (margin tag : String) : Template :=
  [.lines [margin ++ tag], .slot ["module_name"] [], .text ".", .slot ["model", "name"] []]

def actionComment : Template :=
  [.lines ["", "            /**", "             * @ngdoc method"]] ++
  modelTag "             *" " @name " ++
  [.text "#", .slot ["action", "name"] [.key]] ++
  modelTag "             *" " @methodOf " ++
  [.given ["action", "deprecated"] [
    .lines ["             *", "             * @deprecated "],
    .slot ["action", "deprecated"] []],
  description "             *" ["action", "doc_lines"],
  parameters "             *" ["action", "params"],
  .lines ["             *"],
  .lines ["             * @returns "],
  .choice (.holds ["action", "is_array"]) [.text "\x7bArray.<Object>\x7d"] [.text "\x7bObject\x7d"],
  .text " An empty reference that will be populated with the server response.",
  .lines ["             */"]]

def loginInterceptor : Piece :=
  .lines [
    "              interceptor: \x7b",
    "                response: function(response) \x7b",
    "                  let accessToken = response.data;",
    "                  LoopBackAuth.setUser(accessToken.id, accessToken.userId, accessToken.user);",
    "                  LoopBackAuth.rememberMe = response.config.params.rememberMe !== false;",
    "                  LoopBackAuth.save();",
    "                  return response.resource;",
    "                \x7d,",
    "              \x7d,"]

def logoutInterceptor : Piece :=
  .lines [
    "              interceptor: \x7b",
    "                response: function(response) \x7b",
    "                  LoopBackAuth.clearUser();",
    "                  LoopBackAuth.clearStorage();",
    "                  return response.resource;",
    "                \x7d,",
    "              \x7d,"]

def action : Template := [
  .choice (.holds ["action", "internal"])
    [.lines ["", "            // INTERNAL. "], .slot ["action", "internal"] []]
    [.given ["comments"] actionComment],
  .lines ["            "], .slot ["action", "name"] [.key, .literal], .text ": \x7b",
  .given ["action", "params_literal"] [
    .lines ["              params: "], .slot ["action", "params_literal"] [], .text ","],
  .choice (.holds ["action", "is_login"])
    [loginInterceptor]
    [.given ["action", "is_logout"] [logoutInterceptor]],
  .given ["action", "is_array"] [.lines ["              isArray: true,"]],
  .lines ["              url: urlBase + "], .slot ["action", "url"] [.literal], .text ",",
  .lines ["              method: "], .slot ["action", "verb"] [.literal], .text ",",
  .lines ["            \x7d,"]]

def currentUserAction : Template := [
  .lines [
    "",
    "            'getCurrent': \x7b",
    "              url: urlBase + "],
  .slot ["model", "url"] [.literal],
  .text ",",
  .lines [
    "              method: 'GET',",
    "              params: \x7b",
    "                id: function() \x7b",
    "                  let id = LoopBackAuth.currentUserId;",
    "                  if (id == null) id = '__anonymous__';",
    "                  return id;",
    "                \x7d,",
    "              \x7d,",
    "              interceptor: \x7b",
    "                response: function(response) \x7b",
    "                  LoopBackAuth.currentUserData = response.data;",
    "                  return response.resource;",
    "                \x7d,",
    "                responseError: function(responseError) \x7b",
    "                  LoopBackAuth.clearUser();",
    "                  LoopBackAuth.clearStorage();",
    "                  return $q.reject(responseError);",
    "                \x7d,",
    "              \x7d,",
    "              __isGetCurrentUser__: true,",
    "            \x7d,"]]

def operationComment : Template :=
  [.lines ["        /**", "         * @ngdoc method"]] ++
  modelTag "         *" " @name " ++
  [.text "#", .slot ["op", "api_name"] []] ++
  modelTag "         *" " @methodOf " ++
  [description "         *" ["op", "doc_lines"],
  .lines ["         *", "         * Calls `"],
  .slot ["scope", "target"] [], .text ".", .slot ["op", "method"] [],
  .text "` on behalf of this model.",
  parameters "         *" ["op", "params"],
  .lines ["         */"]]

def operation : Template := [
  .lines [""],
  .given ["comments"] operationComment,
  .lines ["        R."], .slot ["op", "api_name"] [], .text " = function() \x7b",
  .lines ["          let TargetResource = $injector.get("],
  .slot ["scope", "target"] [.literal], .text ");",
  .lines ["          let action = TargetResource["], .slot ["op", "method"] [.literal], .text "];",
  .lines ["          return action.apply(R, arguments);", "        \x7d;"]]

/-- The operations of a relation.  Without an accessor of the relation's own name they are assigned
on an empty object. -/
def scope : Template := [
  .choice (.not (.holds ["scope", "has_default_accessor"]))
    [.lines ["", "        R."], .slot ["scope", "name"] [], .text " = \x7b\x7d;"]
    [],
  .each "op" ["scope", "operations"] operation]

def resourceComment : Template :=
  [.lines ["  /**", "   * @ngdoc object"]] ++
  modelTag "   *" " @name " ++
  modelTag "   *" " @header " ++
  [.lines ["   * @object"],
  description "   *" ["model", "doc_lines"],
  .lines ["   *", "   * A $resource object for interacting with the `"],
  .slot ["model", "name"] [], .text "` model.",
  .lines ["   */"]]

def currentUserAccess : Piece :=
  .lines [
    "",
    "        R.getCachedCurrent = function() \x7b",
    "          let data = LoopBackAuth.currentUserData;",
    "          return data ? new R(data) : null;",
    "        \x7d;",
    "",
    "        R.isAuthenticated = function() \x7b",
    "          return this.getCurrentId() != null;",
    "        \x7d;",
    "",
    "        R.getCurrentId = function() \x7b",
    "          return LoopBackAuth.currentUserId;",
    "        \x7d;"]

def resource : Template := [
  .given ["comments"] resourceComment,
  .lines ["  module.factory(", "    "], .slot ["model", "name"] [.literal], .text ",",
  .lines ["    [", "      "],
  .slot ["services", "resource"] [.literal], .text ", ", .slot ["services", "auth"] [.literal],
  .text ", '$injector', '$q',",
  .lines [
    "      function(LoopBackResource, LoopBackAuth, $injector, $q) \x7b",
    "        let R = LoopBackResource(",
    "          urlBase + "],
  .slot ["model", "url"] [.literal], .text ",",
  .lines ["          \x7b 'id': '@id' \x7d,", "          \x7b"],
  .each "action" ["model", "actions"] action,
  .given ["model", "is_user"] currentUserAction,
  .lines ["          \x7d", "        );"],
  .given ["model", "is_user"] [currentUserAccess],
  .lines ["", "        R.modelName = "], .slot ["model", "name"] [.literal], .text ";",
  .choice (.both (.holds ["include_schema"]) (.holds ["model", "schema_json"]))
    [.lines ["", "        R.schema = "], .slot ["model", "schema_json"] [], .text ";"]
    [],
  .each "scope" ["model", "scopes"] scope,
  .lines ["", "        return R;", "      \x7d]);", ""]]

end AngularClient.Module
